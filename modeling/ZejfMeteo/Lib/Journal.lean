import Mathlib.Data.List.Induction
import Mathlib.Logic.Function.Basic
import Mathlib.Order.Lattice
import Mathlib.Data.Nat.Basic
import Mathlib.Order.Defs.LinearOrder

/-!
# Journals

Pages are kept in memory and saved now and then. What a page holds is told by its journal,
the writes to it in their order. A restart cuts every journal off, anywhere between what is
safe and its end.
-/

namespace Journals

variable {P S V : Type}

/-- What happens to the pages. -/
inductive Event (P S V : Type)
  | wrote (p : P) (s : S) (v : V)
  | saved
  | restarted
  | passed

section Latest

variable [DecidableEq S]

/-- The last value that was written to a slot. -/
def latest (ws : List (S × V)) (s : S) : Option V :=
  (ws.reverse.find? (fun w => w.1 = s)).map Prod.snd

variable {ws us : List (S × V)} {s t : S} {v w : V}

@[simp] lemma latest_nil : latest ([] : List (S × V)) s = none := rfl

lemma latest_append : latest (ws ++ us) s = (latest us s).or (latest ws s) := by
  unfold latest
  rw [List.reverse_append, List.find?_append]
  cases us.reverse.find? (fun w => w.1 = s) <;> rfl

lemma latest_snoc : latest (ws ++ [(t, v)]) s = if t = s then some v else latest ws s := by
  rw [latest_append]
  by_cases ht : t = s
  · simp [latest, ht]
  · simp [latest, ht]

lemma mem_of_latest (h : latest ws s = some v) : (s, v) ∈ ws := by
  unfold latest at h
  obtain ⟨⟨t, x⟩, hfind, rfl⟩ := Option.map_eq_some_iff.mp h
  have ht : t = s := by simpa using List.find?_some hfind
  rw [← ht]
  exact List.mem_reverse.mp (List.mem_of_find?_eq_some hfind)

end Latest

/-- The writes to a page in their order, the first of them safe. -/
structure Journal (S V : Type) where
  writes : List (S × V)
  safe : ℕ
  safe_le : safe ≤ writes.length

namespace Journal

def start : Journal S V := ⟨[], 0, le_rfl⟩

def write (j : Journal S V) (s : S) (v : V) : Journal S V where
  writes := j.writes ++ [(s, v)]
  safe := j.safe
  safe_le := by
    rw [List.length_append]
    exact j.safe_le.trans (Nat.le_add_right _ _)

/-- A journal all of which is safe. -/
def whole (ws : List (S × V)) : Journal S V := ⟨ws, ws.length, le_rfl⟩

def save (j : Journal S V) : Journal S V := whole j.writes

/-- The safe writes are kept, and maybe some more. -/
def cut (j : Journal S V) (k : ℕ) : Journal S V := whole (j.writes.take (max j.safe k))

@[simp] lemma whole_writes (ws : List (S × V)) : (whole ws).writes = ws := rfl

@[simp] lemma save_writes (j : Journal S V) : j.save.writes = j.writes := rfl

@[simp] lemma cut_writes (j : Journal S V) (k : ℕ) :
    (j.cut k).writes = j.writes.take (max j.safe k) := rfl

lemma take_whole {ws : List (S × V)} {k : ℕ} (hk : (whole ws).safe ≤ k) : ws.take k = ws :=
  List.take_of_length_le hk

variable [DecidableEq S]

/-- What a slot of the page holds. -/
def read (j : Journal S V) (s : S) : Option V := latest j.writes s

/-- The slots hold what they have held at some moment since the last save. -/
def Backs (j : Journal S V) (slots : S → Option V) : Prop :=
  ∃ k, j.safe ≤ k ∧ ∀ s, slots s = latest (j.writes.take k) s

variable {j : Journal S V} {slots : S → Option V} {s : S} {v : V}

lemma backs_read (j : Journal S V) : j.Backs j.read :=
  ⟨j.writes.length, j.safe_le, fun s => by rw [List.take_length]; rfl⟩

lemma Backs.write (h : j.Backs slots) (s : S) (v : V) : (j.write s v).Backs slots := by
  obtain ⟨k, hk, hslots⟩ := h
  refine ⟨min k j.writes.length, le_min hk j.safe_le, fun t => ?_⟩
  have htake : j.writes.take (min k j.writes.length) = j.writes.take k := by
    rw [← List.take_take, List.take_length]
  rw [hslots, Journal.write, List.take_append_of_le_length (min_le_right _ _), htake]

lemma backs_save : j.save.Backs j.read := backs_read j.save

/-- After a restart, the page holds what was backed up of it. -/
lemma Backs.cut (h : j.Backs slots) : ∃ k, slots = (j.cut k).read ∧ (j.cut k).Backs slots := by
  obtain ⟨k, hk, hslots⟩ := h
  have hread : slots = (j.cut k).read := by
    funext s
    rw [hslots, read, cut_writes, max_eq_right hk]
  exact ⟨k, hread, hread ▸ backs_read _⟩

lemma start_read : (start : Journal S V).read = fun _ => none := rfl

end Journal

section Runs

variable [DecidableEq P]

/-- What an event does to the journals. Only a restart leaves anything open. -/
inductive Step (J : P → Journal S V) : Event P S V → (P → Journal S V) → Prop
  | wrote (p : P) (s : S) (v : V) : Step J (.wrote p s v) (Function.update J p ((J p).write s v))
  | saved : Step J .saved (fun p => (J p).save)
  | restarted (k : P → ℕ) : Step J .restarted (fun p => (J p).cut (k p))
  | passed : Step J .passed J

inductive Reaches : List (Event P S V) → (P → Journal S V) → Prop
  | start : Reaches [] (fun _ => .start)
  | snoc {es J e J'} : Reaches es J → Step J e J' → Reaches (es ++ [e]) J'

/-- After these events, a restart may have undone what was done before them. -/
def Lost (es : List (Event P S V)) : Prop :=
  ∃ pre post, es = pre ++ .restarted :: post ∧ .saved ∉ pre

/-- A slot holds the value of some write to it, and every later one may have been undone; or it
holds nothing, and all may have been. -/
def Explains (es : List (Event P S V)) (p : P) (s : S) : Option V → Prop
  | none => ∀ pre v post, es = pre ++ .wrote p s v :: post → Lost post
  | some v => ∃ pre post, es = pre ++ .wrote p s v :: post ∧
      ∀ pre' w post', post = pre' ++ .wrote p s w :: post' → Lost post'

/-- Of two writes to a page without a restart between them, the first one is kept if the second
one is, unless its slot is written again. -/
def KeepsOrder (es : List (Event P S V)) (p : P) (slots : S → Option V) : Prop :=
  ∀ pre mid post s v t w, es = pre ++ .wrote p s v :: (mid ++ .wrote p t w :: post) →
    .restarted ∉ mid → (∀ x, .wrote p s x ∉ mid ++ .wrote p t w :: post) →
    .wrote p t w ∉ pre ++ mid ++ post → slots t = some w → slots s = some v

lemma split_snoc {α : Type} {es pre post : List α} {e x : α}
    (h : es ++ [e] = pre ++ x :: post) :
    (∃ post', post = post' ++ [e] ∧ es = pre ++ x :: post') ∨ (post = [] ∧ es = pre ∧ e = x) := by
  cases post using List.reverseRecOn with
  | nil =>
    obtain ⟨rfl, he⟩ := List.append_inj' h rfl
    exact Or.inr ⟨rfl, rfl, (List.cons.inj he).1⟩
  | append_singleton post y =>
    rw [← List.cons_append, ← List.append_assoc] at h
    obtain ⟨rfl, he⟩ := List.append_inj' h rfl
    exact Or.inl ⟨post, by rw [(List.cons.inj he).1], rfl⟩

variable {es : List (Event P S V)} {e : Event P S V} {J J' : P → Journal S V} {p : P} {s : S}
  {v : V} {o : Option V}

omit [DecidableEq P] in
lemma Lost.append (h : Lost es) (fs : List (Event P S V)) : Lost (es ++ fs) := by
  obtain ⟨pre, post, rfl, hpre⟩ := h
  exact ⟨pre, post ++ fs, by simp, hpre⟩

omit [DecidableEq P] in
/-- What happens before a restart matters only if it is a save. -/
lemma Lost.unsaved (h : Lost (es ++ [.restarted])) (he : e ≠ .saved) :
    Lost (es ++ [e] ++ [.restarted]) := by
  obtain ⟨pre, post, hes, hpre⟩ := h
  rcases split_snoc hes with ⟨post, -, rfl⟩ | ⟨-, rfl, -⟩
  · exact Lost.append (Lost.append ⟨pre, post, rfl, hpre⟩ _) _
  · refine ⟨es ++ [e], [], rfl, ?_⟩
    rw [List.mem_append, List.mem_singleton, not_or]
    exact ⟨hpre, he.symm⟩

omit [DecidableEq P] in
lemma lost_restarted : Lost ([.restarted] : List (Event P S V)) := ⟨[], [], rfl, List.not_mem_nil⟩

omit [DecidableEq P] in
/-- A value stays explained as long as its slot is not written. -/
lemma Explains.pass (h : Explains es p s o) (he : ∀ v, e ≠ .wrote p s v) :
    Explains (es ++ [e]) p s o := by
  cases o with
  | none =>
    intro pre v post hes
    rcases split_snoc hes with ⟨post, rfl, rfl⟩ | ⟨-, -, rfl⟩
    · exact (h pre v post rfl).append _
    · exact absurd rfl (he v)
  | some w =>
    obtain ⟨pre, post, rfl, hpost⟩ := h
    refine ⟨pre, post ++ [e], by simp, ?_⟩
    intro pre' v post' hes
    rcases split_snoc hes with ⟨post', rfl, rfl⟩ | ⟨-, -, rfl⟩
    · exact (hpost pre' v post' rfl).append _
    · exact absurd rfl (he v)

omit [DecidableEq P] in
/-- What a restart may bring up stays so until the next save. -/
lemma Explains.unsaved (h : Explains (es ++ [.restarted]) p s o) (he : e ≠ .saved) :
    Explains (es ++ [e] ++ [.restarted]) p s o := by
  cases o with
  | none =>
    intro pre v post hes
    rcases split_snoc hes with ⟨post₁, rfl, hes₁⟩ | ⟨-, -, hr⟩
    · rcases split_snoc hes₁ with ⟨post₂, rfl, rfl⟩ | ⟨rfl, -, -⟩
      · exact (h pre v (post₂ ++ [.restarted]) (by simp)).unsaved he
      · exact lost_restarted
    · cases hr
  | some w =>
    obtain ⟨pre, post, hes, hpost⟩ := h
    rcases split_snoc hes with ⟨post, rfl, rfl⟩ | ⟨-, -, hr⟩
    · refine ⟨pre, post ++ [e] ++ [.restarted], by simp, ?_⟩
      intro pre' v post' hes
      rcases split_snoc hes with ⟨post₁, rfl, hes₁⟩ | ⟨-, -, hr⟩
      · rcases split_snoc hes₁ with ⟨post₂, rfl, rfl⟩ | ⟨rfl, -, -⟩
        · exact (hpost pre' v (post₂ ++ [.restarted]) (by simp)).unsaved he
        · exact lost_restarted
      · cases hr
    · cases hr

omit [DecidableEq P] in
lemma explains_wrote : Explains (es ++ [.wrote p s v]) p s (some v) :=
  ⟨es, [], rfl, fun _ _ _ h => by simp at h⟩

variable [DecidableEq S]

/-- What a page holds is explained, and so is what it would hold after a restart. -/
structure Explained (es : List (Event P S V)) (p : P) (j : Journal S V) : Prop where
  now : ∀ s, Explains es p s (j.read s)
  restarted : ∀ k, j.safe ≤ k → ∀ s, Explains (es ++ [.restarted]) p s (latest (j.writes.take k) s)

lemma Explained.step (h : ∀ p, Explained es p (J p)) (hstep : Step J e J') (p : P) :
    Explained (es ++ [e]) p (J' p) := by
  have hpass : e ≠ .saved → (∀ s v, e ≠ .wrote p s v) → Explained (es ++ [e]) p (J p) := by
    intro he hne
    exact ⟨fun s => ((h p).now s).pass (hne s), fun k hk s => ((h p).restarted k hk s).unsaved he⟩
  cases hstep with
  | wrote q t v =>
    by_cases hp : q = p
    · subst hp
      rw [Function.update_self]
      have hnow : ∀ s, Explains (es ++ [.wrote q t v]) q s (((J q).write t v).read s) := by
        intro s
        rw [Journal.read, Journal.write, latest_snoc]
        by_cases hs : t = s
        · subst hs
          rw [if_pos rfl]
          exact explains_wrote
        · rw [if_neg hs]
          exact ((h q).now s).pass (fun x hx => hs (Event.wrote.inj hx).2.1)
      refine ⟨hnow, fun k hk s => ?_⟩
      by_cases hlen : k ≤ (J q).writes.length
      · rw [Journal.write, List.take_append_of_le_length hlen]
        exact ((h q).restarted k hk s).unsaved (by simp)
      · rw [List.take_of_length_le (by simp [Journal.write]; omega)]
        exact (hnow s).pass (by simp)
    · rw [Function.update_of_ne (Ne.symm hp)]
      exact hpass (by simp) (fun s x hx => hp (Event.wrote.inj hx).1)
  | saved =>
    have hnow : ∀ s, Explains (es ++ [.saved]) p s ((J p).read s) :=
      fun s => ((h p).now s).pass (by simp)
    refine ⟨hnow, fun k hk s => ?_⟩
    rw [Journal.save_writes, Journal.take_whole hk]
    exact (hnow s).pass (by simp)
  | restarted k =>
    have hnow : ∀ s, Explains (es ++ [.restarted]) p s (((J p).cut (k p)).read s) :=
      fun s => (h p).restarted _ (le_max_left _ _) s
    refine ⟨hnow, fun i hi s => ?_⟩
    rw [Journal.cut_writes, Journal.take_whole hi]
    exact (hnow s).pass (by simp)
  | passed => exact hpass (by simp) (by simp)

lemma Reaches.explained (h : Reaches es J) (p : P) : Explained es p (J p) := by
  induction h generalizing p with
  | start =>
    refine ⟨fun s => ?_, fun k _ s => ?_⟩
    · intro pre v post hes
      simp at hes
    · rw [Journal.start, List.take_nil]
      intro pre v post hes
      rcases split_snoc hes with ⟨post, -, hes⟩ | ⟨-, -, hr⟩
      · simp at hes
      · cases hr
  | snoc _ hstep ih => exact Explained.step ih hstep p

/-- Every slot holds the value of a write to it that no later one has replaced for good. -/
theorem Reaches.explains (h : Reaches es J) (p : P) (s : S) : Explains es p s ((J p).read s) :=
  (h.explained p).now s

omit [DecidableEq P] [DecidableEq S] in
/-- A write that cannot have been undone and has not been replaced is read. -/
theorem Explains.kept {pre post : List (Event P S V)}
    (h : Explains (pre ++ .wrote p s v :: post) p s o) (hlost : ¬Lost post)
    (hwritten : ∀ x, .wrote p s x ∉ post) : o = some v := by
  cases o with
  | none => exact absurd (h pre v post rfl) hlost
  | some w =>
    obtain ⟨pre', post', hes, hlater⟩ := h
    rcases List.append_eq_append_iff.mp hes with ⟨mid, rfl, hmid⟩ | ⟨mid, rfl, hmid⟩
    · cases mid with
      | nil =>
        obtain ⟨hw, -⟩ := List.cons.inj hmid
        rw [(Event.wrote.inj hw).2.2]
      | cons e mid =>
        obtain ⟨-, rfl⟩ := List.cons.inj hmid
        exact absurd (by simp) (hwritten w)
    · cases mid with
      | nil =>
        obtain ⟨hw, -⟩ := List.cons.inj hmid
        rw [(Event.wrote.inj hw).2.2]
      | cons e mid =>
        obtain ⟨-, rfl⟩ := List.cons.inj hmid
        exact absurd (hlater mid v post rfl) hlost

omit [DecidableEq S] in
/-- Nothing is in a journal that has not been written. -/
lemma Reaches.mem (h : Reaches es J) (hmem : (s, v) ∈ (J p).writes) : .wrote p s v ∈ es := by
  induction h with
  | start => cases hmem
  | @snoc es J e J' _ hstep ih =>
    rw [List.mem_append, List.mem_singleton]
    cases hstep with
    | wrote q t x =>
      by_cases hp : q = p
      · subst hp
        rw [Function.update_self, Journal.write, List.mem_append, List.mem_singleton] at hmem
        rcases hmem with hmem | hmem
        · exact Or.inl (ih hmem)
        · obtain ⟨rfl, rfl⟩ := Prod.mk.inj hmem
          exact Or.inr rfl
      · rw [Function.update_of_ne (Ne.symm hp)] at hmem
        exact Or.inl (ih hmem)
    | saved => exact Or.inl (ih hmem)
    | restarted k => exact Or.inl (ih (List.mem_of_mem_take hmem))
    | passed => exact Or.inl (ih hmem)

omit [DecidableEq P] [DecidableEq S] in
/-- After another event, the order is in question only for what this event writes. -/
lemma KeepsOrder.snoc {slots : S → Option V} (h : KeepsOrder es p slots)
    (hlast : ∀ pre mid s v t w, es = pre ++ .wrote p s v :: mid → e = .wrote p t w → s ≠ t →
      .wrote p t w ∉ pre ++ mid → slots t = some w → slots s = some v) :
    KeepsOrder (es ++ [e]) p slots := by
  intro pre mid post s v t w hes hmid hs hw ht
  rw [← List.cons_append, ← List.append_assoc] at hes
  rcases split_snoc hes with ⟨post', rfl, rfl⟩ | ⟨rfl, rfl, hwrote⟩
  · refine h pre mid post' s v t w (by simp) hmid (fun x hx => hs x ?_) (fun hx => hw ?_) ht
    · rw [← List.cons_append, ← List.append_assoc]
      exact List.mem_append_left _ hx
    · rw [← List.append_assoc]
      exact List.mem_append_left _ hx
  · refine hlast pre mid s v t w rfl hwrote ?_ (by simpa using hw) ht
    rintro rfl
    exact hs w (by simp)

omit [DecidableEq P] [DecidableEq S] in
lemma KeepsOrder.pass {slots : S → Option V} (h : KeepsOrder es p slots)
    (he : ∀ s v, e ≠ .wrote p s v) : KeepsOrder (es ++ [e]) p slots :=
  h.snoc (fun _ _ _ _ t w _ hwrote => absurd hwrote (he t w))

omit [DecidableEq P] in
/-- A page that is written on its own journal. -/
lemma KeepsOrder.write {ws : List (S × V)} {x : V} (h : KeepsOrder es p (latest ws))
    (hexplains : ∀ s, Explains es p s (latest ws s)) :
    KeepsOrder (es ++ [.wrote p s x]) p (latest (ws ++ [(s, x)])) := by
  intro pre mid post s' v t w hes hmid hs hw ht
  rw [← List.cons_append, ← List.append_assoc] at hes
  rcases split_snoc hes with ⟨post', rfl, rfl⟩ | ⟨rfl, rfl, hwrote⟩
  · have hne : s ≠ s' := by
      rintro rfl
      exact hs x (by simp)
    have hnet : s ≠ t := by
      rintro rfl
      rw [latest_snoc, if_pos rfl] at ht
      obtain rfl := Option.some.inj ht
      exact hw (by simp)
    rw [latest_snoc, if_neg hne]
    rw [latest_snoc, if_neg hnet] at ht
    refine h pre mid post' s' v t w (by simp) hmid (fun y hy => hs y ?_) (fun hy => hw ?_) ht
    · rw [← List.cons_append, ← List.append_assoc]
      exact List.mem_append_left _ hy
    · rw [← List.append_assoc]
      exact List.mem_append_left _ hy
  · obtain ⟨-, rfl, rfl⟩ := Event.wrote.inj hwrote
    have hne : s ≠ s' := by
      rintro rfl
      exact hs x (by simp)
    rw [latest_snoc, if_neg hne]
    refine (hexplains s').kept ?_ (fun y hy => hs y (List.mem_append_left _ hy))
    rintro ⟨pre', post', rfl, -⟩
    exact hmid (by simp)

/-- Every write of a page that may be cut off next comes after those that stay. -/
lemma Reaches.ordered (h : Reaches es J) (p : P) :
    ∀ k, (J p).safe ≤ k → KeepsOrder es p (latest ((J p).writes.take k)) := by
  induction h with
  | start =>
    intro k _ pre mid post s v t w hes
    simp at hes
  | @snoc es J e J' hreach hstep ih =>
    cases hstep with
    | wrote q t x =>
      by_cases hp : q = p
      · subst hp
        rw [Function.update_self]
        intro k hk
        by_cases hlen : k ≤ (J q).writes.length
        · rw [Journal.write, List.take_append_of_le_length hlen]
          refine (ih k hk).snoc ?_
          rintro pre mid s v t' w rfl hwrote hne hw ht
          -- The later write is not in this part of the journal.
          have hmem := hreach.mem (List.mem_of_mem_take (mem_of_latest ht))
          rw [List.mem_append, List.mem_cons] at hmem
          rcases hmem with hmem | hmem | hmem
          · exact absurd (List.mem_append_left _ hmem) hw
          · exact absurd (Event.wrote.inj hmem).2.1.symm hne
          · exact absurd (List.mem_append_right _ hmem) hw
        · rw [List.take_of_length_le (by simp [Journal.write]; omega)]
          have hall := ih _ (J q).safe_le
          rw [List.take_length] at hall
          exact hall.write (hreach.explains q)
      · rw [Function.update_of_ne (Ne.symm hp)]
        exact fun k hk => (ih k hk).pass (fun s v he => hp (Event.wrote.inj he).1)
    | saved =>
      intro k hk
      have hall := ih _ (J p).safe_le
      rw [List.take_length] at hall
      rw [Journal.save_writes, Journal.take_whole hk]
      exact hall.pass (by simp)
    | restarted k =>
      intro i hi
      rw [Journal.cut_writes, Journal.take_whole hi]
      exact (ih _ (le_max_left _ _)).pass (by simp)
    | passed => exact fun k hk => (ih k hk).pass (by simp)

/-- No write to a page gets lost without those that come after it. -/
theorem Reaches.keepsOrder (h : Reaches es J) (p : P) : KeepsOrder es p (J p).read := by
  have hall := h.ordered p _ (J p).safe_le
  rwa [List.take_length] at hall

end Runs

end Journals
