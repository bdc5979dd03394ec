import Mathlib.Data.Nat.Digits.Lemmas
import Mathlib.Tactic.Common

/-!
# Formatted text

Printing into and scanning from C strings, byte by byte: what `snprintf` and `sscanf` do
for unsigned decimals, texts and literal characters. A text is the list of the bytes
before the terminating NUL.
-/

namespace Format

/-- The bytes of an ASCII text. -/
def ascii (s : String) : List UInt8 := s.toList.map (fun c => UInt8.ofNat c.toNat)

def isSpace (c : UInt8) : Bool := c == 0x20 || (0x09 ≤ c && c ≤ 0x0D)

def isDigit (c : UInt8) : Bool := 0x30 ≤ c && c ≤ 0x39

def digitByte (d : ℕ) : UInt8 := UInt8.ofNat (0x30 + d)

/-- `%u`. -/
def decimal (n : ℕ) : List UInt8 :=
  if n = 0 then [digitByte 0] else ((Nat.digits 10 n).map digitByte).reverse

def digitsValue (s : List UInt8) : ℕ := s.foldl (fun v c => 10 * v + (c.toNat - 0x30)) 0

/-- `strtoul` on a sign and digits, for a 64-bit `unsigned long`. -/
def strtoul (negative : Bool) (digits : List UInt8) : ℕ :=
  let v := digitsValue digits
  if 2 ^ 64 ≤ v then 2 ^ 64 - 1 else if negative then (2 ^ 64 - v) % 2 ^ 64 else v

/-- An optional sign and what comes after it. -/
def scanSign : List UInt8 → Bool × List UInt8
  | [] => (false, [])
  | c :: s => if c = 0x2D then (true, s) else if c = 0x2B then (false, s) else (false, c :: s)

/-- The number that `%u` finds, before it is cut to the width of its target. -/
def scanUnsigned (s : List UInt8) : Option (ℕ × List UInt8) :=
  let (negative, s) := scanSign (s.dropWhile isSpace)
  let digits := s.takeWhile isDigit
  if digits = [] then none else some (strtoul negative digits, s.dropWhile isDigit)

inductive Piece
  | lit (c : UInt8)
  | num (n : ℕ)
  | str (s : List UInt8)

def Piece.text : Piece → List UInt8
  | .lit c => [c]
  | .num n => decimal n
  | .str s => s

def print (ps : List Piece) : List UInt8 := ps.flatMap Piece.text

/-- What `snprintf` leaves in a buffer of `maxLength > 0` bytes; its return value is the
length of the whole text. -/
def snprintf (maxLength : ℕ) (ps : List Piece) : List UInt8 := (print ps).take (maxLength - 1)

/-- The directives of a scan format; `num` has the width of its target in bits and `float`
is `%f`. -/
inductive Directive
  | lit (c : UInt8)
  | num (width : ℕ)
  | until (stop : List UInt8)
  | float

/-- An assigned item; a float is a 32-bit pattern. -/
inductive Field
  | num (n : ℕ)
  | str (s : List UInt8)
  | float (v : UInt32)
deriving DecidableEq

/-- The items that `sscanf` assigns before the first directive that fails. How `%f` reads
its text is a parameter. -/
def sscanf (scanFloat : List UInt8 → Option (UInt32 × List UInt8)) :
    List Directive → List UInt8 → List Field
  | [], _ => []
  | .lit c :: ds, s =>
    match s with
    | [] => []
    | b :: s => if b = c then sscanf scanFloat ds s else []
  | .num width :: ds, s =>
    match scanUnsigned s with
    | none => []
    | some (n, s) => .num (n % 2 ^ width) :: sscanf scanFloat ds s
  | .until stop :: ds, s =>
    let t := s.takeWhile (fun c => decide (c ∉ stop))
    if t = [] then [] else .str t :: sscanf scanFloat ds (s.drop t.length)
  | .float :: ds, s =>
    match scanFloat s with
    | none => []
    | some (v, s) => .float v :: sscanf scanFloat ds s

/-- What the string functions see of the bytes of a buffer: those before the first NUL. -/
def cText (s : List UInt8) : List UInt8 := s.takeWhile (fun c => decide (c ≠ 0))

lemma digitByte_toNat {d : ℕ} (h : d < 10) : (digitByte d).toNat = 0x30 + d := by
  rw [digitByte, UInt8.toNat_ofNat']
  omega

lemma isDigit_digitByte {d : ℕ} (h : d < 10) : isDigit (digitByte d) = true := by
  have hn := digitByte_toNat h
  simp only [isDigit, Bool.and_eq_true, decide_eq_true_eq, UInt8.le_iff_toNat_le, hn]
  exact ⟨Nat.le_add_right _ _, by change _ ≤ 57; omega⟩

lemma digitsValue_reverse (L : List ℕ) (h : ∀ d ∈ L, d < 10) :
    digitsValue (L.map digitByte).reverse = Nat.ofDigits 10 L := by
  rw [digitsValue, List.foldl_reverse]
  induction L with
  | nil => rfl
  | cons d L ih =>
    rw [List.map_cons, List.foldr_cons, ih (fun e he => h e (by simp [he])), Nat.ofDigits_cons,
      digitByte_toNat (h d (by simp))]
    omega

lemma digitsValue_decimal (n : ℕ) : digitsValue (decimal n) = n := by
  by_cases h : n = 0
  · subst h
    rfl
  · rw [decimal, if_neg h, digitsValue_reverse _ (fun d hd => Nat.digits_lt_base (by decide) hd),
      Nat.ofDigits_digits]

lemma decimal_injective : Function.Injective decimal := by
  intro m n h
  rw [← digitsValue_decimal m, h, digitsValue_decimal]

lemma isDigit_of_mem_decimal {n : ℕ} {c : UInt8} (h : c ∈ decimal n) : isDigit c = true := by
  rw [decimal] at h
  split at h
  · rw [List.mem_singleton.mp h]
    exact isDigit_digitByte (by decide)
  · obtain ⟨d, hd, rfl⟩ := List.mem_map.mp (List.mem_reverse.mp h)
    exact isDigit_digitByte (Nat.digits_lt_base (by decide) hd)

lemma decimal_ne_nil (n : ℕ) : decimal n ≠ [] := by
  rw [decimal]
  split
  · simp
  · rename_i hn
    simpa [Nat.digits_ne_nil_iff_ne_zero] using hn

/-- A number of at most `k` digits prints as at most `k` characters. -/
lemma length_decimal_le {n k : ℕ} (hk : 0 < k) (h : n < 10 ^ k) : (decimal n).length ≤ k := by
  rw [decimal]
  split
  · exact hk
  · rw [List.length_reverse, List.length_map]
    exact (Nat.digits_length_le_iff (by decide) n).mpr h

lemma length_decimal_uint8 (x : UInt8) : (decimal x.toNat).length ≤ 3 :=
  length_decimal_le (by decide) (Nat.lt_trans x.toNat_lt (by decide))

lemma length_decimal_uint16 (x : UInt16) : (decimal x.toNat).length ≤ 5 :=
  length_decimal_le (by decide) (Nat.lt_trans x.toNat_lt (by decide))

lemma length_decimal_uint32 (x : UInt32) : (decimal x.toNat).length ≤ 10 :=
  length_decimal_le (by decide) (Nat.lt_trans x.toNat_lt (by decide))

lemma takeWhile_append_stop {p : UInt8 → Bool} {s t : List UInt8} (hs : ∀ c ∈ s, p c = true)
    (ht : ∀ c ∈ t.head?, p c = false) :
    (s ++ t).takeWhile p = s ∧ (s ++ t).dropWhile p = t := by
  induction s with
  | nil =>
    cases t with
    | nil => exact ⟨rfl, rfl⟩
    | cons c t => simp [ht c (by simp)]
  | cons c s ih =>
    obtain ⟨h1, h2⟩ := ih (fun d hd => hs d (by simp [hd]))
    simp [hs c (by simp), h1, h2]

/-- A text stops at its first character if that does. -/
lemma head?_cons_stop {p : UInt8 → Bool} {c : UInt8} (hc : p c = false) (s : List UInt8) :
    ∀ d ∈ (c :: s).head?, p d = false := by
  intro d hd
  rw [List.head?_cons, Option.mem_some_iff] at hd
  rw [← hd]
  exact hc

/-- A text is split in one way at the first character that stops it. -/
lemma append_inj_stop {p : UInt8 → Bool} {s s' t t' : List UInt8} (hs : ∀ c ∈ s, p c = true)
    (hs' : ∀ c ∈ s', p c = true) (ht : ∀ c ∈ t.head?, p c = false)
    (ht' : ∀ c ∈ t'.head?, p c = false) (h : s ++ t = s' ++ t') : s = s' ∧ t = t' := by
  obtain ⟨h1, h2⟩ := takeWhile_append_stop hs ht
  obtain ⟨h1', h2'⟩ := takeWhile_append_stop hs' ht'
  rw [h] at h1 h2
  exact ⟨h1.symm.trans h1', h2.symm.trans h2'⟩

/-- A text without NULs is seen as it is. -/
lemma cText_of_notMem {s : List UInt8} (h : 0 ∉ s) : cText s = s := by
  have hs : ∀ c ∈ s, decide (c ≠ 0) = true := by
    intro c hc
    rw [decide_eq_true_eq]
    rintro rfl
    exact h hc
  have htake := (takeWhile_append_stop (t := []) hs (by simp)).1
  rwa [List.append_nil] at htake

lemma scanSign_digit {c : UInt8} (h : isDigit c = true) (s : List UInt8) :
    scanSign (c :: s) = (false, c :: s) := by
  have h1 : c ≠ 0x2D := by
    rintro rfl
    exact absurd h (by decide)
  have h2 : c ≠ 0x2B := by
    rintro rfl
    exact absurd h (by decide)
  rw [scanSign, if_neg h1, if_neg h2]

lemma isSpace_digit {c : UInt8} (h : isDigit c = true) : isSpace c = false := by
  simp only [isDigit, isSpace, Bool.and_eq_true, decide_eq_true_eq, UInt8.le_iff_toNat_le] at *
  have h32 : c ≠ 0x20 := by
    rintro rfl
    exact absurd h.1 (by decide)
  have h13 : (0x0D : UInt8).toNat < c.toNat := by
    have h48 : 48 ≤ c.toNat := h.1
    change 13 < c.toNat
    omega
  simpa [h32] using fun _ => h13

/-- A printed number is scanned back, up to the next character that is no digit. -/
lemma scanUnsigned_decimal {n : ℕ} {s : List UInt8} (hn : n < 2 ^ 64)
    (hs : ∀ c ∈ s.head?, isDigit c = false) : scanUnsigned (decimal n ++ s) = some (n, s) := by
  obtain ⟨h1, h2⟩ := takeWhile_append_stop (fun c hc => isDigit_of_mem_decimal (n := n) hc) hs
  have hv : strtoul false (decimal n) = n := by
    simp only [strtoul, digitsValue_decimal]
    rw [if_neg (by omega)]
    rfl
  obtain ⟨c, ds, hds⟩ := List.exists_cons_of_ne_nil (decimal_ne_nil n)
  have hc : isDigit c = true := isDigit_of_mem_decimal (n := n) (by simp [hds])
  have hskip : (decimal n ++ s).dropWhile isSpace = decimal n ++ s := by
    simp [hds, isSpace_digit hc]
  have hsign : scanSign (decimal n ++ s) = (false, decimal n ++ s) := by
    rw [hds, List.cons_append, scanSign_digit hc]
  simp only [scanUnsigned, hskip, hsign, h1, h2, hv, decimal_ne_nil, if_false]

section Rules

variable {scanFloat : List UInt8 → Option (UInt32 × List UInt8)} {ds : List Directive}
  {s t : List UInt8}

@[simp] lemma sscanf_nil (s : List UInt8) : sscanf scanFloat [] s = [] := rfl

@[simp] lemma sscanf_lit (c : UInt8) (s : List UInt8) :
    sscanf scanFloat (.lit c :: ds) (c :: s) = sscanf scanFloat ds s := by
  simp [sscanf]

lemma sscanf_num {n : ℕ} (width : ℕ) (hn : n < 2 ^ 64) (hs : ∀ c ∈ s.head?, isDigit c = false) :
    sscanf scanFloat (.num width :: ds) (decimal n ++ s) =
      .num (n % 2 ^ width) :: sscanf scanFloat ds s := by
  simp only [sscanf, scanUnsigned_decimal hn hs]

/-- A number that fits into the integer it is scanned into is found again. -/
lemma sscanf_num_of_lt {n width : ℕ} (hn : n < 2 ^ width) (hwidth : width ≤ 64)
    (hs : ∀ c ∈ s.head?, isDigit c = false) :
    sscanf scanFloat (.num width :: ds) (decimal n ++ s) = .num n :: sscanf scanFloat ds s := by
  have h64 : n < 2 ^ 64 := hn.trans_le (Nat.pow_le_pow_right (by decide) hwidth)
  rw [sscanf_num width h64 hs, Nat.mod_eq_of_lt hn]

/-- Bytes are scanned into a wider integer. -/
lemma sscanf_uint8 (x : UInt8) (hs : ∀ c ∈ s.head?, isDigit c = false) :
    sscanf scanFloat (.num 16 :: ds) (decimal x.toNat ++ s) =
      .num x.toNat :: sscanf scanFloat ds s :=
  sscanf_num_of_lt (Nat.lt_trans x.toNat_lt (by decide)) (by decide) hs

lemma sscanf_uint16 (x : UInt16) (hs : ∀ c ∈ s.head?, isDigit c = false) :
    sscanf scanFloat (.num 16 :: ds) (decimal x.toNat ++ s) =
      .num x.toNat :: sscanf scanFloat ds s :=
  sscanf_num_of_lt x.toNat_lt (by decide) hs

lemma sscanf_uint32 (x : UInt32) (hs : ∀ c ∈ s.head?, isDigit c = false) :
    sscanf scanFloat (.num 32 :: ds) (decimal x.toNat ++ s) =
      .num x.toNat :: sscanf scanFloat ds s :=
  sscanf_num_of_lt x.toNat_lt (by decide) hs

lemma sscanf_until (scanFloat : List UInt8 → Option (UInt32 × List UInt8))
    (ds : List Directive) {stop : List UInt8} (hne : s ≠ []) (hs : ∀ c ∈ s, c ∉ stop)
    (ht : ∀ c ∈ t.head?, c ∈ stop) : sscanf scanFloat (.until stop :: ds) (s ++ t) =
      .str s :: sscanf scanFloat ds t := by
  obtain ⟨h1, -⟩ := takeWhile_append_stop (p := fun c => decide (c ∉ stop))
    (fun c hc => by simpa using hs c hc) (fun c hc => by simpa using ht c hc)
  simp only [sscanf, h1, hne, if_false, List.drop_left]

/-- What is left after a number is the end of the text. -/
lemma suffix_scanUnsigned {n : ℕ} (h : scanUnsigned s = some (n, t)) : t <:+ s := by
  have hsign : ∀ u : List UInt8, (scanSign u).2 <:+ u := by
    intro u
    cases u with
    | nil => exact List.suffix_refl _
    | cons c u =>
      rw [scanSign]
      split
      · exact List.suffix_cons _ _
      · split
        · exact List.suffix_cons _ _
        · exact List.suffix_refl _
  unfold scanUnsigned at h
  simp only [Option.ite_none_left_eq_some, Option.some.injEq, Prod.mk.injEq] at h
  obtain ⟨-, -, rfl⟩ := h
  exact (List.dropWhile_suffix _).trans ((hsign _).trans (List.dropWhile_suffix _))

/-- A scanned text is part of the text it was found in, and free of the characters that end
it. -/
lemma sublist_of_mem_sscanf {m : List UInt8} (hm : .str m ∈ sscanf (fun _ => none) ds s) :
    m.Sublist s ∧ ∃ stop, .until stop ∈ ds ∧ ∀ c ∈ m, c ∉ stop := by
  induction ds generalizing s with
  | nil => cases hm
  | cons d ds ih =>
    have hlater : ∀ {s'}, s'.Sublist s → .str m ∈ sscanf (fun _ => none) ds s' →
        m.Sublist s ∧ ∃ stop, .until stop ∈ d :: ds ∧ ∀ c ∈ m, c ∉ stop := by
      intro s' hs' hm'
      obtain ⟨hsub, stop, hstop, hfree⟩ := ih hm'
      exact ⟨hsub.trans hs', stop, List.mem_cons_of_mem _ hstop, hfree⟩
    cases d with
    | lit c =>
      cases s with
      | nil => cases hm
      | cons b s =>
        simp only [sscanf] at hm
        split at hm
        · exact hlater (List.sublist_cons_self _ _) hm
        · cases hm
    | num width =>
      simp only [sscanf] at hm
      split at hm
      · cases hm
      · rename_i n t hscan
        exact hlater (suffix_scanUnsigned hscan).sublist (by simpa using hm)
    | «until» stop =>
      simp only [sscanf] at hm
      split at hm
      · cases hm
      · rcases List.mem_cons.mp hm with he | hrest
        · rw [Field.str.inj he]
          refine ⟨(List.takeWhile_prefix _).sublist, stop, List.mem_cons_self, ?_⟩
          intro c hc
          simpa using List.all_eq_true.mp List.all_takeWhile c hc
        · exact hlater (List.drop_sublist _ _) hrest
    | float => cases hm

/-- The directive assigns an item. -/
def Directive.assigns : Directive → Bool
  | .lit _ => false
  | _ => true

/-- A scanned number fits the target of its directive. -/
lemma getElem?_sscanf_num {i n : ℕ} (h : (sscanf scanFloat ds s)[i]? = some (.num n)) :
    ∃ width, (ds.filter Directive.assigns)[i]? = some (.num width) ∧ n < 2 ^ width := by
  induction ds generalizing s i with
  | nil => cases h
  | cons d ds ih =>
    cases d with
    | lit c =>
      cases s with
      | nil => cases h
      | cons b s =>
        simp only [sscanf] at h
        split at h
        · exact ih h
        · cases h
    | num width =>
      simp only [sscanf] at h
      split at h
      · cases h
      · cases i with
        | zero =>
          obtain rfl := Field.num.inj (Option.some.inj h)
          exact ⟨width, rfl, Nat.mod_lt _ (Nat.two_pow_pos width)⟩
        | succ i => exact ih h
    | «until» stop =>
      simp only [sscanf] at h
      split at h
      · cases h
      · cases i with
        | zero => cases h
        | succ i => exact ih h
    | float =>
      simp only [sscanf] at h
      split at h
      · cases h
      · cases i with
        | zero => cases h
        | succ i => exact ih h

lemma length_lt_of_mem_sscanf_lit {c : UInt8} {m : List UInt8}
    (hm : .str m ∈ sscanf (fun _ => none) (.lit c :: ds) s) : m.length < s.length := by
  cases s with
  | nil => cases hm
  | cons b s =>
    simp only [sscanf] at hm
    split at hm
    · have hle := (sublist_of_mem_sscanf hm).1.length_le
      rw [List.length_cons]
      omega
    · cases hm

end Rules

/-- The integer that a number is written as, whatever its size. -/
def writtenInt (s : List UInt8) : ℤ :=
  let (negative, s) := scanSign (s.dropWhile isSpace)
  let v := digitsValue (s.takeWhile isDigit)
  if negative then -v else v

/-- What `strtoul` makes of a written integer, for a 64-bit `unsigned long`. -/
def scannedNat (z : ℤ) : ℕ := if 2 ^ 64 ≤ z.natAbs then 2 ^ 64 - 1 else (z % 2 ^ 64).toNat

/-- The integers that are written where `sscanf` assigns numbers; items of other kinds have
none. -/
def sscanfInts (scanFloat : List UInt8 → Option (UInt32 × List UInt8)) :
    List Directive → List UInt8 → List (Option ℤ)
  | [], _ => []
  | .lit c :: ds, s =>
    match s with
    | [] => []
    | b :: s => if b = c then sscanfInts scanFloat ds s else []
  | .num _ :: ds, s =>
    match scanUnsigned s with
    | none => []
    | some (_, t) => some (writtenInt s) :: sscanfInts scanFloat ds t
  | .until stop :: ds, s =>
    let t := s.takeWhile (fun c => decide (c ∉ stop))
    if t = [] then [] else none :: sscanfInts scanFloat ds (s.drop t.length)
  | .float :: ds, s =>
    match scanFloat s with
    | none => []
    | some (_, s) => none :: sscanfInts scanFloat ds s

section Written

variable {scanFloat : List UInt8 → Option (UInt32 × List UInt8)} {ds : List Directive}
  {s t : List UInt8}

lemma strtoul_eq (negative : Bool) (digits : List UInt8) : strtoul negative digits =
    scannedNat (if negative then -(digitsValue digits : ℤ) else digitsValue digits) := by
  unfold strtoul scannedNat
  cases negative with
  | false =>
    simp only [Bool.false_eq_true, if_false, Int.natAbs_natCast]
    split
    · rfl
    · omega
  | true =>
    simp only [if_true, Int.natAbs_neg, Int.natAbs_natCast]
    split
    · rfl
    · omega

lemma scanUnsigned_written {n : ℕ} (h : scanUnsigned s = some (n, t)) :
    n = scannedNat (writtenInt s) := by
  unfold scanUnsigned at h
  simp only [Option.ite_none_left_eq_some, Option.some.injEq, Prod.mk.injEq] at h
  rw [← h.2.1, strtoul_eq]
  rfl

/-- A scanned number is the written one, as far as its target can hold it. -/
lemma getElem?_sscanfInts {i n : ℕ} (h : (sscanf scanFloat ds s)[i]? = some (.num n)) :
    ∃ width z, (ds.filter Directive.assigns)[i]? = some (.num width) ∧
      (sscanfInts scanFloat ds s)[i]? = some (some z) ∧ n = scannedNat z % 2 ^ width := by
  induction ds generalizing s i with
  | nil => cases h
  | cons d ds ih =>
    cases d with
    | lit c =>
      cases s with
      | nil => cases h
      | cons b s =>
        simp only [sscanf] at h
        simp only [sscanfInts]
        split at h
        · rw [if_pos (by assumption)]
          exact ih h
        · cases h
    | num width =>
      simp only [sscanf] at h
      simp only [sscanfInts]
      split at h
      · cases h
      · rename_i m t hscan
        cases i with
        | zero =>
          have hm := Field.num.inj (Option.some.inj h)
          exact ⟨width, writtenInt s, rfl, rfl, by rw [← hm, scanUnsigned_written hscan]⟩
        | succ i => exact ih h
    | «until» stop =>
      simp only [sscanf] at h
      simp only [sscanfInts]
      split at h
      · cases h
      · rw [if_neg (by assumption)]
        cases i with
        | zero => cases h
        | succ i => exact ih h
    | float =>
      simp only [sscanf] at h
      simp only [sscanfInts]
      split at h
      · cases h
      · cases i with
        | zero => cases h
        | succ i => exact ih h

lemma sscanfInts_lit (c : UInt8) (s : List UInt8) :
    sscanfInts scanFloat (.lit c :: ds) (c :: s) = sscanfInts scanFloat ds s := by
  simp [sscanfInts]

/-- A printed number is written as itself. -/
lemma sscanfInts_num {n : ℕ} (width : ℕ) (hn : n < 2 ^ 64)
    (hs : ∀ c ∈ s.head?, isDigit c = false) :
    sscanfInts scanFloat (.num width :: ds) (decimal n ++ s) =
      some (n : ℤ) :: sscanfInts scanFloat ds s := by
  obtain ⟨c, cs, hcs⟩ := List.exists_cons_of_ne_nil (decimal_ne_nil n)
  have hc : isDigit c = true := isDigit_of_mem_decimal (n := n) (by simp [hcs])
  have hskip : (decimal n ++ s).dropWhile isSpace = decimal n ++ s := by
    simp [hcs, isSpace_digit hc]
  have hsign : scanSign (decimal n ++ s) = (false, decimal n ++ s) := by
    rw [hcs, List.cons_append, scanSign_digit hc]
  have htake := (takeWhile_append_stop (fun c hc => isDigit_of_mem_decimal (n := n) hc) hs).1
  simp [sscanfInts, scanUnsigned_decimal hn hs, writtenInt, hskip, hsign, htake,
    digitsValue_decimal]

end Written

end Format
