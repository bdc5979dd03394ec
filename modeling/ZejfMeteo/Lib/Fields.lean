import ZejfMeteo.Lib.Format
import ZejfMeteo.Lib.Lines

/-!
# Numbers in fields

A text of fields, each of which a separator ends, and what `sscanf` finds in it when every field
is scanned as a number.
-/

namespace Lines

section First

variable {α : Type} {sep : α} {l s t : List α} {ls ks : List (List α)}

lemma unlines_cons (l : List α) (ls : List (List α)) :
    unlines sep (l :: ls) = l ++ sep :: unlines sep ls := by
  rw [unlines, List.flatMap_cons, List.append_assoc]
  rfl

lemma unlines_append (ls ks : List (List α)) :
    unlines sep (ls ++ ks) = unlines sep ls ++ unlines sep ks := List.flatMap_append

lemma mem_unlines {c : α} (h : c ∈ unlines sep ls) : c = sep ∨ ∃ l ∈ ls, c ∈ l := by
  obtain ⟨l, hl, hc⟩ := List.mem_flatMap.mp h
  rcases List.mem_append.mp hc with hc | hc
  · exact Or.inr ⟨l, hl, hc⟩
  · exact Or.inl (List.mem_singleton.mp hc)

lemma append_cons_inj_of_notMem {k : List α} (hl : sep ∉ l) (hk : sep ∉ k)
    (h : l ++ sep :: s = k ++ sep :: t) : l = k ∧ s = t := by
  induction l generalizing k with
  | nil =>
    cases k with
    | nil => exact ⟨rfl, (List.cons.inj h).2⟩
    | cons c k => exact absurd ((List.cons.inj h).1 ▸ List.mem_cons_self) hk
  | cons c l ih =>
    cases k with
    | nil => exact absurd ((List.cons.inj h).1 ▸ List.mem_cons_self) hl
    | cons d k =>
      obtain ⟨rfl, hrest⟩ := List.cons.inj h
      obtain ⟨rfl, rfl⟩ := ih (fun hm => hl (List.mem_cons_of_mem _ hm))
        (fun hm => hk (List.mem_cons_of_mem _ hm)) hrest
      exact ⟨rfl, rfl⟩

/-- If the separator is no longer there, the text goes on up to the next one. -/
lemma append_cons_of_eq {k : List α} {c : α} (hl : sep ∉ l) (hc : c ≠ sep)
    (h : l ++ c :: s = k ++ sep :: t) : ∃ g, k = l ++ c :: g ∧ s = g ++ sep :: t := by
  rcases List.append_eq_append_iff.mp h with ⟨u, rfl, hu⟩ | ⟨u, rfl, hu⟩
  · cases u with
    | nil => exact absurd (List.cons.inj hu).1 hc
    | cons d u =>
      obtain ⟨rfl, hs⟩ := List.cons.inj hu
      exact ⟨u, rfl, hs⟩
  · cases u with
    | nil => exact absurd (List.cons.inj hu).1.symm hc
    | cons d u =>
      obtain ⟨rfl, -⟩ := List.cons.inj hu
      exact absurd (List.mem_append_right k List.mem_cons_self) hl

/-- What ends a text ends the part behind a separator. -/
lemma concat_eq_append_cons {c : α} (h : s ++ [c] = l ++ sep :: t) (ht : t ≠ []) :
    ∃ u, t = u ++ [c] ∧ s = l ++ sep :: u := by
  obtain ⟨u, d, rfl⟩ := (List.eq_nil_or_concat' t).resolve_left ht
  rw [← List.cons_append, ← List.append_assoc] at h
  obtain ⟨rfl, hc⟩ := List.append_inj' h rfl
  obtain rfl := (List.cons.inj hc).1
  exact ⟨u, rfl, rfl⟩

/-- A text begins with more fields than another reading of it tells: the others are in its rest. -/
lemma unlines_prefix (hls : ∀ l ∈ ls, sep ∉ l) (hks : ∀ k ∈ ks, sep ∉ k)
    (hlength : ls.length ≤ ks.length) (h : unlines sep ls ++ s = unlines sep ks ++ t) :
    ∃ more, ks = ls ++ more ∧ s = unlines sep more ++ t := by
  induction ls generalizing ks with
  | nil => exact ⟨ks, rfl, h⟩
  | cons l ls ih =>
    cases ks with
    | nil => exact absurd hlength (Nat.not_succ_le_zero _)
    | cons k ks =>
      rw [unlines_cons, unlines_cons, List.append_assoc, List.append_assoc, List.cons_append,
        List.cons_append] at h
      obtain ⟨rfl, hrest⟩ := append_cons_inj_of_notMem (hls l List.mem_cons_self)
        (hks k List.mem_cons_self) h
      obtain ⟨more, rfl, hs⟩ := ih (fun l hl => hls l (List.mem_cons_of_mem _ hl))
        (fun k hk => hks k (List.mem_cons_of_mem _ hk)) (Nat.le_of_succ_le_succ hlength) hrest
      exact ⟨more, rfl, hs⟩

lemma unlines_append_inj (hls : ∀ l ∈ ls, sep ∉ l) (hks : ∀ k ∈ ks, sep ∉ k)
    (hlength : ls.length = ks.length) (h : unlines sep ls ++ s = unlines sep ks ++ t) :
    ls = ks ∧ s = t := by
  obtain ⟨more, rfl, rfl⟩ := unlines_prefix hls hks hlength.le h
  rw [List.length_append] at hlength
  obtain rfl := List.length_eq_zero_iff.mp (by omega : more.length = 0)
  exact ⟨(List.append_nil ls).symm, rfl⟩

/-- Every character of the fields stands in a field or is the separator behind it. -/
lemma exists_position {i : ℕ} (h : i < (unlines sep ls).length) : ∃ pre l post k,
    ls = pre ++ l :: post ∧ i = (unlines sep pre).length + k ∧ k ≤ l.length := by
  induction ls generalizing i with
  | nil => exact absurd h (Nat.not_lt_zero i)
  | cons l ls ih =>
    by_cases hi : i ≤ l.length
    · exact ⟨[], l, ls, i, rfl, (Nat.zero_add i).symm, hi⟩
    · rw [unlines_cons, List.length_append, List.length_cons] at h
      have hlt : i - (l.length + 1) < (unlines sep ls).length := by omega
      obtain ⟨pre, m, post, k, rfl, hpos, hk⟩ := ih hlt
      refine ⟨l :: pre, m, post, k, rfl, ?_, hk⟩
      rw [unlines_cons, List.length_append, List.length_cons]
      omega

lemma unlines_set {pre post : List (List α)} {k : ℕ} (hk : k < l.length) (b : α) (t : List α) :
    (unlines sep (pre ++ l :: post) ++ t).set ((unlines sep pre).length + k) b =
      unlines sep (pre ++ l.set k b :: post) ++ t := by
  rw [unlines_append, unlines_append, unlines_cons, unlines_cons, List.append_assoc,
    List.append_assoc, List.append_assoc, List.append_assoc,
    List.set_append_right _ _ (Nat.le_add_right _ _), Nat.add_sub_cancel_left,
    List.set_append_left _ _ hk]

lemma unlines_set_separator {pre post : List (List α)} (b : α) (t : List α) :
    (unlines sep (pre ++ l :: post) ++ t).set ((unlines sep pre).length + l.length) b =
      unlines sep pre ++ (l ++ b :: (unlines sep post ++ t)) := by
  rw [unlines_append, unlines_cons, List.append_assoc, List.append_assoc, List.cons_append,
    List.set_append_right _ _ (Nat.le_add_right _ _), Nat.add_sub_cancel_left,
    List.set_append_right _ _ (Nat.le_refl _), Nat.sub_self, List.set_cons_zero]

/-- The first `n` fields, and the text behind them. -/
def firstLines [DecidableEq α] (sep : α) : ℕ → List α → List (List α) × List α
  | 0, s => ([], s)
  | n + 1, s =>
    let (ls, t) := firstLines sep n ((s.dropWhile (fun c => decide (c ≠ sep))).drop 1)
    (s.takeWhile (fun c => decide (c ≠ sep)) :: ls, t)

lemma firstLines_unlines [DecidableEq α] (hls : ∀ l ∈ ls, sep ∉ l) (s : List α) :
    firstLines sep ls.length (unlines sep ls ++ s) = (ls, s) := by
  induction ls with
  | nil => rfl
  | cons l ls ih =>
    have hl : ∀ c ∈ l, decide (c ≠ sep) = true := by
      intro c hc
      rw [decide_eq_true_eq]
      rintro rfl
      exact hls l List.mem_cons_self hc
    have htake := @List.takeWhile_append_of_pos _ _ l (sep :: (unlines sep ls ++ s)) hl
    have hdrop := @List.dropWhile_append_of_pos _ _ l (sep :: (unlines sep ls ++ s)) hl
    rw [List.takeWhile_cons_of_neg (by simp), List.append_nil] at htake
    rw [List.dropWhile_cons_of_neg (by simp)] at hdrop
    rw [List.length_cons, unlines_cons, List.append_assoc, List.cons_append, firstLines, htake,
      hdrop, List.drop_one, List.tail_cons, ih (fun l hl => hls l (List.mem_cons_of_mem _ hl))]

end First

end Lines

namespace Format

/-- The whole text is scanned as a number. -/
def IsNumber (f : List UInt8) : Prop := (scanUnsigned f).map Prod.snd = some []

instance decidableIsNumber (f : List UInt8) : Decidable (IsNumber f) := inferInstanceAs (Decidable (_ = _))

/-- The number that is scanned. -/
def number (f : List UInt8) : ℕ := ((scanUnsigned f).map Prod.fst).getD 0

section Numbers

variable {f s t : List UInt8} {n : ℕ} {c : UInt8}

lemma isNumber_iff : IsNumber f ↔ scanUnsigned f = some (number f, []) := by
  unfold IsNumber number
  cases scanUnsigned f with
  | none => simp
  | some r => simp [Prod.ext_iff]

/-- The signs that a number may have. -/
def IsSign (sign : List UInt8) : Prop := sign = [] ∨ sign = [0x2D] ∨ sign = [0x2B]

lemma scanSign_sign {sign digits : List UInt8} (hsign : IsSign sign) (hne : digits ≠ [])
    (hdigits : ∀ c ∈ digits, isDigit c = true) (t : List UInt8) :
    scanSign (sign ++ (digits ++ t)) = (decide (sign = [0x2D]), digits ++ t) := by
  obtain ⟨d, ds, rfl⟩ := List.exists_cons_of_ne_nil hne
  rcases hsign with rfl | rfl | rfl
  · exact scanSign_digit (hdigits d List.mem_cons_self) _
  · rfl
  · rfl

/-- Blanks, at most one sign and digits, up to the next character that is no digit. -/
lemma scan_parts {blanks sign digits : List UInt8} (hblanks : ∀ c ∈ blanks, isSpace c = true)
    (hsign : IsSign sign) (hne : digits ≠ []) (hdigits : ∀ c ∈ digits, isDigit c = true)
    (ht : ∀ c ∈ t.head?, isDigit c = false) :
    scanUnsigned (blanks ++ (sign ++ (digits ++ t))) =
        some (strtoul (decide (sign = [0x2D])) digits, t) ∧
      writtenInt (blanks ++ (sign ++ (digits ++ t))) =
        if sign = [0x2D] then -(digitsValue digits : ℤ) else digitsValue digits := by
  have hspace : ∀ c ∈ (sign ++ (digits ++ t)).head?, isSpace c = false := by
    intro c hc
    obtain ⟨d, ds, rfl⟩ := List.exists_cons_of_ne_nil hne
    rcases hsign with rfl | rfl | rfl
    · obtain rfl := Option.some.inj hc
      exact isSpace_digit (hdigits d List.mem_cons_self)
    · obtain rfl := Option.some.inj hc
      decide
    · obtain rfl := Option.some.inj hc
      decide
  obtain ⟨-, hskip⟩ := takeWhile_append_stop hblanks hspace
  obtain ⟨htake, hdrop⟩ := takeWhile_append_stop hdigits ht
  have hsigned := scanSign_sign hsign hne hdigits t
  constructor
  · simp only [scanUnsigned, hskip, hsigned, htake, hdrop, hne, if_false]
  · simp only [writtenInt, hskip, hsigned, htake, decide_eq_true_eq]

lemma isSign_scanSign (s : List UInt8) : ∃ sign, IsSign sign ∧ s = sign ++ (scanSign s).2 := by
  cases s with
  | nil => exact ⟨[], Or.inl rfl, rfl⟩
  | cons c s =>
    by_cases hminus : c = 0x2D
    · subst hminus
      exact ⟨[0x2D], Or.inr (Or.inl rfl), rfl⟩
    by_cases hplus : c = 0x2B
    · subst hplus
      exact ⟨[0x2B], Or.inr (Or.inr rfl), rfl⟩
    · rw [scanSign, if_neg hminus, if_neg hplus]
      exact ⟨[], Or.inl rfl, rfl⟩

/-- What is scanned consists of these parts. -/
lemma exists_parts (h : scanUnsigned s = some (n, t)) : ∃ blanks sign digits,
    s = blanks ++ (sign ++ (digits ++ t)) ∧ (∀ c ∈ blanks, isSpace c = true) ∧ IsSign sign ∧
      digits ≠ [] ∧ (∀ c ∈ digits, isDigit c = true) ∧ ∀ c ∈ t.head?, isDigit c = false := by
  unfold scanUnsigned at h
  simp only [Option.ite_none_left_eq_some, Option.some.injEq, Prod.mk.injEq] at h
  obtain ⟨hne, -, rfl⟩ := h
  obtain ⟨sign, hsign, hrest⟩ := isSign_scanSign (s.dropWhile isSpace)
  refine ⟨s.takeWhile isSpace, sign, (scanSign (s.dropWhile isSpace)).2.takeWhile isDigit, ?_, ?_,
    hsign, hne, ?_, ?_⟩
  · rw [List.takeWhile_append_dropWhile, ← hrest, List.takeWhile_append_dropWhile]
  · exact fun c hc => List.all_eq_true.mp List.all_takeWhile c hc
  · exact fun c hc => List.all_eq_true.mp List.all_takeWhile c hc
  · intro c hc
    have hhead := List.head?_dropWhile_not isDigit (scanSign (s.dropWhile isSpace)).2
    rw [Option.mem_def.mp hc] at hhead
    simpa using hhead

/-- A number is scanned from a text that is one, and the rest follows. -/
lemma scanUnsigned_split (h : scanUnsigned s = some (n, t)) :
    ∃ f, s = f ++ t ∧ IsNumber f ∧ number f = n ∧ writtenInt f = writtenInt s := by
  obtain ⟨blanks, sign, digits, rfl, hblanks, hsign, hne, hdigits, ht⟩ := exists_parts h
  obtain ⟨hscan, hwritten⟩ := scan_parts hblanks hsign hne hdigits ht
  obtain ⟨hscan', hwritten'⟩ := scan_parts (t := []) hblanks hsign hne hdigits (by simp)
  rw [List.append_nil] at hscan' hwritten'
  refine ⟨blanks ++ (sign ++ digits), ?_, ?_, ?_, hwritten'.trans hwritten.symm⟩
  · simp only [List.append_assoc]
  · rw [IsNumber, hscan']
    rfl
  · rw [number, hscan', ← (Prod.mk.inj (Option.some.inj (h.symm.trans hscan))).1]
    rfl

lemma IsNumber.scan (h : IsNumber f) (ht : ∀ c ∈ t.head?, isDigit c = false) :
    scanUnsigned (f ++ t) = some (number f, t) := by
  obtain ⟨blanks, sign, digits, hf, hblanks, hsign, hne, hdigits, -⟩ :=
    exists_parts (isNumber_iff.mp h)
  obtain ⟨hscan, -⟩ := scan_parts hblanks hsign hne hdigits ht
  obtain ⟨hscan', -⟩ := scan_parts (t := []) hblanks hsign hne hdigits (by simp)
  have hsplit : ∀ u, f ++ u = blanks ++ (sign ++ (digits ++ u)) := by
    intro u
    rw [hf]
    simp only [List.append_nil, List.append_assoc]
  have hnumber := hsplit []
  rw [List.append_nil] at hnumber
  rw [← hnumber, isNumber_iff.mp h] at hscan'
  rw [hsplit, hscan, (Prod.mk.inj (Option.some.inj hscan')).1]

/-- The written number is what `strtoul` makes the scanned one of. -/
lemma IsNumber.number_eq (h : IsNumber f) : number f = scannedNat (writtenInt f) :=
  scanUnsigned_written (isNumber_iff.mp h)

lemma IsNumber.mem (h : IsNumber f) (hc : c ∈ f) :
    isSpace c = true ∨ c = 0x2D ∨ c = 0x2B ∨ isDigit c = true := by
  obtain ⟨blanks, sign, digits, rfl, hblanks, hsign, -, hdigits, -⟩ :=
    exists_parts (isNumber_iff.mp h)
  rw [List.append_nil, List.mem_append, List.mem_append] at hc
  rcases hc with hc | hc | hc
  · exact Or.inl (hblanks c hc)
  · rcases hsign with rfl | rfl | rfl
    · cases hc
    · exact Or.inr (Or.inl (List.mem_singleton.mp hc))
    · exact Or.inr (Or.inr (Or.inl (List.mem_singleton.mp hc)))
  · exact Or.inr (Or.inr (Or.inr (hdigits c hc)))

/-- Digits are a number. -/
lemma isNumber_digits (hne : f ≠ []) (hdigits : ∀ c ∈ f, isDigit c = true) : IsNumber f := by
  obtain ⟨hscan, -⟩ := @scan_parts [] [] [] f (by simp) (Or.inl rfl) hne hdigits (by simp)
  rw [List.nil_append, List.nil_append, List.append_nil] at hscan
  rw [IsNumber, hscan]
  rfl

lemma isNumber_decimal (n : ℕ) : IsNumber (decimal n) :=
  isNumber_digits (decimal_ne_nil n) (fun _ => isDigit_of_mem_decimal)

lemma number_decimal (hn : n < 2 ^ 64) : number (decimal n) = n := by
  have hscan := scanUnsigned_decimal (s := []) hn (by simp)
  rw [List.append_nil] at hscan
  rw [number, hscan]
  rfl

/-- A target of `bits` bits holds what is written if and only if that fits. -/
lemma scannedNat_mod_eq_iff {z : ℤ} {bits : ℕ} (hbits : bits ≤ 63) :
    ((scannedNat z % 2 ^ bits : ℕ) : ℤ) = z ↔ 0 ≤ z ∧ z < 2 ^ bits := by
  have hpow : 2 ^ bits ≤ 2 ^ 63 := Nat.pow_le_pow_right (by decide) hbits
  have hcast : ((2 ^ bits : ℕ) : ℤ) = 2 ^ bits := Nat.cast_pow 2 bits
  constructor
  · intro h
    have hlt := Nat.mod_lt (scannedNat z) (Nat.two_pow_pos bits)
    omega
  · rintro ⟨hpos, hlt⟩
    have hscanned : scannedNat z = z.toNat := by
      unfold scannedNat
      rw [if_neg (by omega)]
      omega
    rw [hscanned, Nat.mod_eq_of_lt (by omega)]
    omega

lemma map_number_eq_iff {fs : List (List UInt8)} {widths : List ℕ} (hfs : ∀ f ∈ fs, IsNumber f)
    (hwidths : ∀ width ∈ widths, width ≤ 63) (hlength : fs.length = widths.length) :
    List.zipWith (fun f width => ((number f % 2 ^ width : ℕ) : ℤ)) fs widths =
        fs.map writtenInt ↔
      List.Forall₂ (fun f width => 0 ≤ writtenInt f ∧ writtenInt f < 2 ^ width) fs widths := by
  induction fs generalizing widths with
  | nil =>
    obtain rfl := List.length_eq_zero_iff.mp hlength.symm
    exact ⟨fun _ => List.Forall₂.nil, fun _ => rfl⟩
  | cons f fs ih =>
    cases widths with
    | nil => cases hlength
    | cons width widths =>
      have hrest := ih (fun f hf => hfs f (List.mem_cons_of_mem _ hf))
        (fun width hwidth => hwidths width (List.mem_cons_of_mem _ hwidth)) (Nat.succ.inj hlength)
      rw [List.zipWith_cons_cons, List.map_cons, List.cons.injEq, List.forall₂_cons, hrest,
        (hfs f List.mem_cons_self).number_eq,
        scannedNat_mod_eq_iff (hwidths width List.mem_cons_self)]

end Numbers

/-- A NUL hides what comes after it. -/
lemma cText_set_zero {s : List UInt8} {i : ℕ} (h : 0 ∉ s) (hi : i < s.length) :
    cText (s.set i 0) = s.take i := by
  have hbefore : ∀ c ∈ s.take i, decide (c ≠ 0) = true := by
    intro c hc
    rw [decide_eq_true_eq]
    rintro rfl
    exact h (List.mem_of_mem_take hc)
  rw [List.set_eq_take_append_cons_drop, if_pos hi]
  exact (takeWhile_append_stop hbefore (head?_cons_stop rfl (s.drop (i + 1)))).1

/-- A number of each width with a separator behind it. -/
def numberDirectives (sep : UInt8) (widths : List ℕ) : List Directive :=
  widths.flatMap (fun width => [.num width, .lit sep])

section Scanning

variable {scanFloat : List UInt8 → Option (UInt32 × List UInt8)} {ds : List Directive}
  {sep : UInt8} {widths : List ℕ} {s t : List UInt8} {fs : List (List UInt8)}

lemma sscanf_numberDirectives (hsep : isDigit sep = false) (hfs : ∀ f ∈ fs, IsNumber f)
    (hlength : fs.length = widths.length) (t : List UInt8) :
    sscanf scanFloat (numberDirectives sep widths ++ ds) (Lines.unlines sep fs ++ t) =
      List.zipWith (fun f width => .num (number f % 2 ^ width)) fs widths ++
        sscanf scanFloat ds t := by
  induction fs generalizing widths with
  | nil =>
    obtain rfl := List.length_eq_zero_iff.mp hlength.symm
    rfl
  | cons f fs ih =>
    cases widths with
    | nil => cases hlength
    | cons width widths =>
      have hscan := (hfs f List.mem_cons_self).scan (head?_cons_stop hsep
        (Lines.unlines sep fs ++ t))
      rw [Lines.unlines_cons, List.append_assoc, List.cons_append]
      simp only [numberDirectives, List.flatMap_cons, List.cons_append, List.nil_append, sscanf,
        hscan, if_true, List.zipWith_cons_cons, List.cons.injEq, true_and]
      exact ih (fun f hf => hfs f (List.mem_cons_of_mem _ hf)) (Nat.succ.inj hlength)

/-- If more is found than the numbers, the text begins with fields of numbers. -/
lemma exists_fields_of_sscanf
    (h : widths.length < (sscanf scanFloat (numberDirectives sep widths ++ ds) s).length) :
    ∃ fs t, s = Lines.unlines sep fs ++ t ∧ fs.length = widths.length ∧ ∀ f ∈ fs, IsNumber f := by
  induction widths generalizing s with
  | nil => exact ⟨[], s, rfl, rfl, by simp⟩
  | cons width widths ih =>
    simp only [numberDirectives, List.flatMap_cons, List.cons_append, List.nil_append,
      sscanf] at h
    split at h
    · cases h
    rename_i n u hscan
    cases u with
    | nil => simp at h
    | cons c u =>
      simp only at h
      by_cases hc : c = sep
      · subst hc
        rw [if_pos rfl, List.length_cons] at h
        obtain ⟨fs, t, rfl, hlength, hfs⟩ := ih (Nat.lt_of_succ_lt_succ h)
        obtain ⟨f, rfl, hf, -, -⟩ := scanUnsigned_split hscan
        refine ⟨f :: fs, t, ?_, by rw [List.length_cons, hlength, List.length_cons], ?_⟩
        · rw [Lines.unlines_cons, List.append_assoc, List.cons_append]
        · intro g hg
          rcases List.mem_cons.mp hg with rfl | hg
          · exact hf
          · exact hfs g hg
      · rw [if_neg hc] at h
        simp at h

end Scanning

end Format
