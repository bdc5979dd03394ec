import ZejfMeteo.HourFiles

/-!
# The files of the sensors, and saves that fail

`sd_card_handler.cpp` keeps an hour in a file on a card. There as on the server, opening the
file to write it empties it, so a save that fails later has already lost what was there.
-/

namespace ZejfMeteo
open Calendar Format

namespace Card

/-! ### The calls of FatFs -/

inductive FResult
  | ok
  | noFile
  | noPath
  | exist
  | other
deriving DecidableEq

/-- How opening a file to write it goes where the names allow it. It may fail after the
file that was there has been emptied. -/
inductive Opening
  | opened
  | refused
  | broken
deriving DecidableEq

/-- Which calls succeed where the card does not decide it, how many bytes `f_write` takes, and
how many of them a file has that could not be closed. -/
structure CardCalls where
  stat : Bool
  mkdir : List UInt8 → Bool
  create : Opening
  written : ℕ
  close : Bool
  flushed : ℕ
  openToRead : Bool
  malloc : Bool
  read : Bool

def present (path : List UInt8) (disk : Disk) : Bool :=
  (disk.files path).isSome || path ∈ disk.folders

/-- The folder of a file or a folder; the root is always there. -/
def hasFolder (path : List UInt8) (disk : Disk) : Bool :=
  let folder := (path.rdropWhile (· ≠ slash)).dropLast
  folder.isEmpty || folder ∈ disk.folders

def fStat (sys : CardCalls) (path : List UInt8) (disk : Disk) : FResult :=
  if !sys.stat then .other
  else if present path disk then .ok
  else if hasFolder path disk then .noFile
  else .noPath

def fMkdir (sys : CardCalls) (path : List UInt8) (disk : Disk) : FResult × Disk :=
  if present path disk then (.exist, disk)
  else if !hasFolder path disk then (.noPath, disk)
  else if sys.mkdir path then (.ok, { disk with folders := path :: disk.folders })
  else (.other, disk)

/-- `f_open` with `FA_WRITE | FA_CREATE_ALWAYS`. -/
def fCreate (sys : CardCalls) (path : List UInt8) (disk : Disk) : FResult × Disk :=
  if path ∈ disk.folders then (.other, disk)
  else if !hasFolder path disk then (.noPath, disk)
  else match sys.create with
    | .opened => (.ok, { disk with files := Function.update disk.files path (some []) })
    | .refused => (.other, disk)
    | .broken => (.other,
        { disk with files := Function.update disk.files path ((disk.files path).map (fun _ => [])) })

/-! ### The code of `sd_card_handler.cpp` -/

/-- `%ld` of a 32-bit number where a `long` has 32 bits. -/
def printLong (n : UInt32) : List UInt8 :=
  if n.toNat < 2 ^ 31 then decimal n.toNat else ascii "-" ++ decimal (2 ^ 32 - n.toNat)

def filePath (hourNumber : UInt32) : List UInt8 :=
  let date := dateOf ((hourNumber * 60 * 60).toNat / 86400)
  [slash] ++ decimal date.year.toNat ++ [slash] ++ twoDigits (date.month + 1) ++ [slash] ++
    twoDigits date.day ++ [slash] ++ printLong hourNumber ++ ascii ".dat"

/-- The loop of `mkdirs`. A folder that cannot be made ends it with -1, which counts as true. -/
def mkdirsLoop (sys : CardCalls) : List (List UInt8) → Disk → Disk
  | [], disk => disk
  | name :: names, disk =>
    match fMkdir sys name disk with
    | (.ok, disk) => mkdirsLoop sys names disk
    | (.exist, disk) => mkdirsLoop sys names disk
    | (_, disk) => disk

def mkdirs (sys : CardCalls) (path : List UInt8) (disk : Disk) : Bool × Disk :=
  match fStat sys path disk with
  | .ok => (true, disk)
  | .noFile => (true, disk)
  | .noPath => (true, mkdirsLoop sys (folderNames path) disk)
  | _ => (false, disk)

/-- Whatever `f_write` says, what counts is how many bytes it took. -/
def cardWrite (sys : CardCalls) (buffer path : List UInt8) (disk : Disk) : ZejfErr × Disk :=
  let (made, disk) := mkdirs sys path disk
  if !made then (.io, disk)
  else
    match fCreate sys path disk with
    | (.ok, disk) =>
      let result := min sys.written buffer.length
      let left := buffer.take (if sys.close then result else sys.flushed)
      (if sys.close && result == buffer.length then .ok else .io,
        { disk with files := Function.update disk.files path (some left) })
    | (_, disk) => (.io, disk)

def cardRead (sys : CardCalls) (maxSize : ℕ) (path : List UInt8) (disk : Disk) :
    ZejfErr × List UInt8 :=
  if !sys.openToRead then (.io, [])
  else
    match disk.files path with
    | none => (.fileDoesntExist, [])
    | some content =>
      if maxSize < content.length then (.io, [])
      else if !sys.malloc then (.io, [])
      else if !sys.read then (.io, [])
      else if content.isEmpty then (.io, [])
      else (.ok, content)

def hourLoad (sys : CardCalls) (maxSize : ℕ) (hourNumber : UInt32) (disk : Disk) :
    ZejfErr × List UInt8 :=
  cardRead sys maxSize (filePath hourNumber) disk

def hourSave (sys : CardCalls) (hourNumber : UInt32) (buffer : List UInt8) (disk : Disk) :
    ZejfErr × Disk :=
  cardWrite sys buffer (filePath hourNumber) disk

end Card

/-! ### Saves that fail -/

/-- If the save fails, whatever is loaded afterwards is what would have been loaded before. -/
def KeepsOnFailure {κ : Type} (save : Disk → ZejfErr × Disk)
    (load : κ → Disk → ZejfErr × List UInt8) (disk : Disk) : Prop :=
  (save disk).1 ≠ .ok → ∀ sys, load sys (save disk).2 = load sys disk

/-- A file of this content can be loaded. -/
def Loadable (maxSize : ℕ) (content : List UInt8) : Prop :=
  content ≠ [] ∧ content.length ≤ maxSize

/-- The file was there, and the new content is loaded as the old one was: the two are the
same, or neither can be loaded. -/
def LoadsAlike (maxSize : ℕ) (old : Option (List UInt8)) (new : List UInt8) : Prop :=
  ∃ content, old = some content ∧
    (content = new ∨ ¬Loadable maxSize content ∧ ¬Loadable maxSize new)

/-- Every folder in the path is there or can be made. -/
def FoldersMade (sys : SystemCalls) (zone : TimeZone) (hourNumber : UInt32) (disk : Disk) : Prop :=
  let pathOnly := (zejfDayPath zone hourNumber).rdropWhile (· ≠ slash)
  pathOnly.dropLast ∈ disk.folders ∨ ∀ name ∈ folderNames pathOnly,
    name ∈ disk.folders ∨ (disk.files name).isSome ∨ sys.mkdir name = true

/-- The server's save opens the file. -/
def SaveOpens (sys : SystemCalls) (zone : TimeZone) (hourNumber : UInt32) (disk : Disk) : Prop :=
  FoldersMade sys zone hourNumber disk ∧ sys.fopen = true

/-- On the card the folder of the file is there or has been made, and the name is free for a
file. -/
def Card.SaveReaches (sys : Card.CardCalls) (hourNumber : UInt32) (disk : Disk) : Prop :=
  let (made, disk) := Card.mkdirs sys (Card.filePath hourNumber) disk
  made = true ∧ Card.filePath hourNumber ∉ disk.folders ∧
    Card.hasFolder (Card.filePath hourNumber) disk = true

/-- When a save on the server leaves what is loaded as it was, or succeeds. -/
def SaveKeeps (sys : SystemCalls) (zone : TimeZone) (hourNumber : UInt32)
    (buffer : Option (List UInt8)) (disk : Disk) : Prop :=
  ∀ bytes, buffer = some bytes → SaveOpens sys zone hourNumber disk →
    (sys.fwrite = true ∧ bytes ≠ []) ∨
      LoadsAlike hourFileMaxSize (disk.files (zejfDayPath zone hourNumber)) (bytes.take sys.flushed)

/-- When a save on the card does. -/
def Card.SaveKeeps (sys : CardCalls) (maxSize : ℕ) (hourNumber : UInt32) (buffer : List UInt8)
    (disk : Disk) : Prop :=
  Card.SaveReaches sys hourNumber disk →
    match sys.create with
    | .opened => (sys.close = true ∧ buffer.length ≤ sys.written) ∨
        LoadsAlike maxSize (disk.files (filePath hourNumber))
          (buffer.take (if sys.close then min sys.written buffer.length else sys.flushed))
    | .refused => True
    | .broken => disk.files (filePath hourNumber) = none ∨
        LoadsAlike maxSize (disk.files (filePath hourNumber)) []

/-! ### Loading a file -/

instance (maxSize : ℕ) (content : List UInt8) : Decidable (Loadable maxSize content) :=
  inferInstanceAs (Decidable (_ ∧ _))

/-- A way to load a file: where every call succeeds it returns what can be loaded, and it never
tells two contents apart that cannot be. -/
structure LoadsFiles {κ : Type} (maxSize : ℕ)
    (load : κ → Option (List UInt8) → ZejfErr × List UInt8) : Prop where
  working : ∃ sys, load sys none = (.fileDoesntExist, []) ∧
    ∀ c, load sys (some c) = if Loadable maxSize c then (.ok, c) else (.io, [])
  unloadable : ∀ sys c c', ¬Loadable maxSize c → ¬Loadable maxSize c' →
    load sys (some c) = load sys (some c')

/-- A file is loaded as before exactly if it is there as before, up to contents that cannot be
loaded. -/
lemma LoadsFiles.alike_iff {κ : Type} {maxSize : ℕ}
    {load : κ → Option (List UInt8) → ZejfErr × List UInt8} (h : LoadsFiles maxSize load)
    (old : Option (List UInt8)) (new : List UInt8) :
    (∀ sys, load sys (some new) = load sys old) ↔ LoadsAlike maxSize old new := by
  constructor
  · intro hall
    obtain ⟨sys, hnone, hsome⟩ := h.working
    have hsame := hall sys
    cases old with
    | none =>
      rw [hnone, hsome] at hsame
      split at hsame <;> cases hsame
    | some content =>
      refine ⟨content, rfl, ?_⟩
      rw [hsome, hsome] at hsame
      by_cases hnew : Loadable maxSize new <;> by_cases hold : Loadable maxSize content
      · rw [if_pos hnew, if_pos hold] at hsame
        exact Or.inl (Prod.mk.inj hsame).2.symm
      · rw [if_pos hnew, if_neg hold] at hsame
        cases hsame
      · rw [if_neg hnew, if_pos hold] at hsame
        cases hsame
      · exact Or.inr ⟨hold, hnew⟩
  · rintro ⟨content, rfl, rfl | ⟨hold, hnew⟩⟩ sys
    · rfl
    · exact h.unloadable sys new content hnew hold

/-- What `hour_load` makes of a file. -/
def loadFile (sys : SystemCalls) : Option (List UInt8) → ZejfErr × List UInt8
  | none => (.fileDoesntExist, [])
  | some content =>
    if !sys.fopen then (.io, [])
    else if hourFileMaxSize < content.length then (.io, [])
    else if !sys.malloc then (.io, [])
    else if content.isEmpty || !sys.fread then (.io, [])
    else (.ok, content)

lemma hourLoad_eq (sys : SystemCalls) (zone : TimeZone) (hourNumber : UInt32) (disk : Disk) :
    hourLoad sys zone hourNumber disk = loadFile sys (disk.files (zejfDayPath zone hourNumber)) := by
  rw [hourLoad]
  cases disk.files (zejfDayPath zone hourNumber) <;> rfl

lemma loadFile_loadsFiles : LoadsFiles hourFileMaxSize loadFile where
  working := by
    refine ⟨workingCalls, rfl, ?_⟩
    intro c
    by_cases hempty : c = [] <;> by_cases hlarge : hourFileMaxSize < c.length <;>
      simp [loadFile, Loadable, workingCalls, hempty, hlarge, List.isEmpty_iff]
  unloadable sys c c' hc hc' := by
    have hio : ∀ c, ¬Loadable hourFileMaxSize c → loadFile sys (some c) = (.io, []) := by
      intro c hc
      by_cases hempty : c = []
      · simp [loadFile, hempty]
      · have hlarge : hourFileMaxSize < c.length := by
          by_contra hle
          exact hc ⟨hempty, by omega⟩
        simp [loadFile, hlarge]
    rw [hio c hc, hio c' hc']

/-- What `card_read` makes of a file. -/
def Card.loadFile (maxSize : ℕ) (sys : Card.CardCalls) :
    Option (List UInt8) → ZejfErr × List UInt8
  | none => if !sys.openToRead then (.io, []) else (.fileDoesntExist, [])
  | some content =>
    if !sys.openToRead then (.io, [])
    else if maxSize < content.length then (.io, [])
    else if !sys.malloc then (.io, [])
    else if !sys.read then (.io, [])
    else if content.isEmpty then (.io, [])
    else (.ok, content)

lemma Card.hourLoad_eq (sys : Card.CardCalls) (maxSize : ℕ) (hourNumber : UInt32) (disk : Disk) :
    Card.hourLoad sys maxSize hourNumber disk =
      Card.loadFile maxSize sys (disk.files (Card.filePath hourNumber)) := by
  rw [Card.hourLoad, Card.cardRead]
  cases disk.files (Card.filePath hourNumber) <;> rfl

/-- Everything succeeds on the card. -/
def Card.workingCalls : Card.CardCalls :=
  ⟨true, fun _ => true, .opened, hourFileMaxSize, true, hourFileMaxSize, true, true, true⟩

lemma Card.loadFile_loadsFiles (maxSize : ℕ) : LoadsFiles maxSize (Card.loadFile maxSize) where
  working := by
    refine ⟨Card.workingCalls, rfl, ?_⟩
    intro c
    by_cases hempty : c = [] <;> by_cases hlarge : maxSize < c.length <;>
      simp [Card.loadFile, Loadable, Card.workingCalls, hempty, hlarge, List.isEmpty_iff]
  unloadable sys c c' hc hc' := by
    have hio : ∀ c, ¬Loadable maxSize c → Card.loadFile maxSize sys (some c) = (.io, []) := by
      intro c hc
      by_cases hempty : c = []
      · simp [Card.loadFile, hempty]
      · have hlarge : maxSize < c.length := by
          by_contra hle
          exact hc ⟨hempty, by omega⟩
        simp [Card.loadFile, hlarge]
    rw [hio c hc, hio c' hc']

/-! ### Saving on the server -/

/-- The folders are made exactly if each is there or can be made. -/
lemma mkpath_eq_zero_iff (sys : SystemCalls) (names : List (List UInt8)) (disk : Disk) :
    (mkpath sys names disk).1 = 0 ↔
      ∀ name ∈ names, name ∈ disk.folders ∨ (disk.files name).isSome ∨ sys.mkdir name = true := by
  induction names generalizing disk with
  | nil => simp [mkpath]
  | cons name names ih =>
    rw [List.forall_mem_cons, mkpath]
    by_cases hthere : name ∈ disk.folders ∨ (disk.files name).isSome
    · have hmkdir : mkdir sys name disk = .error .eexist := by
        rw [mkdir, if_pos hthere]
        rfl
      rw [hmkdir]
      simp only [ih disk]
      refine ⟨fun hall => ⟨?_, hall⟩, And.right⟩
      exact hthere.elim Or.inl (fun h => Or.inr (Or.inl h))
    · by_cases hmade : sys.mkdir name = true
      · have hmkdir : mkdir sys name disk = .ok { disk with folders := name :: disk.folders } := by
          rw [mkdir, if_neg hthere, if_pos hmade]
          rfl
        rw [hmkdir]
        simp only [ih, List.mem_cons]
        constructor
        · intro hall
          refine ⟨Or.inr (Or.inr hmade), ?_⟩
          intro other hother
          rcases hall other hother with (rfl | hin) | hrest
          · exact Or.inr (Or.inr hmade)
          · exact Or.inl hin
          · exact Or.inr hrest
        · rintro ⟨-, hall⟩ other hother
          rcases hall other hother with hin | hrest
          · exact Or.inl (Or.inr hin)
          · exact Or.inr hrest
      · have hmkdir : mkdir sys name disk = .error .other := by
          rw [mkdir, if_neg hthere, if_neg hmade]
          rfl
        rw [hmkdir]
        simp only [Int.reduceNeg, neg_eq_zero, one_ne_zero, false_iff]
        tauto

/-- The folders, and the disk with them, that `hour_save` goes on with. -/
def madeFolders (sys : SystemCalls) (zone : TimeZone) (hourNumber : UInt32) (disk : Disk) : ℤ × Disk :=
  let pathOnly := (zejfDayPath zone hourNumber).rdropWhile (· ≠ slash)
  if pathOnly.dropLast ∈ disk.folders then (0, disk) else mkpath sys (folderNames pathOnly) disk

lemma madeFolders_eq_zero_iff (sys : SystemCalls) (zone : TimeZone) (hourNumber : UInt32)
    (disk : Disk) : (madeFolders sys zone hourNumber disk).1 = 0 ↔
      FoldersMade sys zone hourNumber disk := by
  unfold madeFolders FoldersMade
  dsimp only
  split
  · exact iff_of_true rfl (Or.inl ‹_›)
  · rename_i hnew
    rw [mkpath_eq_zero_iff, or_iff_right hnew]

lemma madeFolders_files (sys : SystemCalls) (zone : TimeZone) (hourNumber : UInt32) (disk : Disk) :
    (madeFolders sys zone hourNumber disk).2.files = disk.files := by
  unfold madeFolders
  dsimp only
  split
  · rfl
  · exact mkpath_files _ _ _

/-- A save that opens the file writes it anew. -/
lemma hourSave_opens {sys : SystemCalls} {zone : TimeZone} {hourNumber : UInt32} {disk : Disk}
    (h : SaveOpens sys zone hourNumber disk) (bytes : List UInt8) :
    (hourSave sys zone hourNumber (some bytes) disk).1 =
        (if sys.fwrite && !bytes.isEmpty then .ok else .io) ∧
      (hourSave sys zone hourNumber (some bytes) disk).2.files (zejfDayPath zone hourNumber) =
        some (bytes.take sys.flushed) := by
  obtain ⟨hfolders, hopen⟩ := h
  rw [← madeFolders_eq_zero_iff] at hfolders
  have hsave : hourSave sys zone hourNumber (some bytes) disk =
      (if sys.fwrite && !bytes.isEmpty then .ok else .io,
        { (madeFolders sys zone hourNumber disk).2 with
          files := Function.update (madeFolders sys zone hourNumber disk).2.files
            (zejfDayPath zone hourNumber) (some (bytes.take sys.flushed)) }) := by
    show (if (madeFolders sys zone hourNumber disk).1 ≠ 0 then _ else _) = _
    rw [if_neg (not_not_intro hfolders), hopen]
    rfl
  rw [hsave]
  exact ⟨rfl, Function.update_self _ _ _⟩

lemma hourSave_not_opens {sys : SystemCalls} {zone : TimeZone} {hourNumber : UInt32} {disk : Disk}
    (h : ¬SaveOpens sys zone hourNumber disk) (bytes : List UInt8) :
    (hourSave sys zone hourNumber (some bytes) disk).2.files = disk.files := by
  rw [SaveOpens, ← madeFolders_eq_zero_iff] at h
  have hfiles := madeFolders_files sys zone hourNumber disk
  show (if (madeFolders sys zone hourNumber disk).1 ≠ 0 then _ else _ : ZejfErr × Disk).2.files = _
  split
  · exact hfiles
  · rename_i hzero
    have hopen : sys.fopen = false := by
      simpa [not_not.mp hzero] using h
    rw [hopen]
    exact hfiles

/-- When a failed save on the server keeps the previous file. -/
lemma hourSave_keepsOnFailure_iff (sys : SystemCalls) (zone : TimeZone) (hourNumber : UInt32)
    (buffer : Option (List UInt8)) (disk : Disk) :
    KeepsOnFailure (hourSave sys zone hourNumber buffer)
        (fun sys disk => hourLoad sys zone hourNumber disk) disk ↔
      SaveKeeps sys zone hourNumber buffer disk := by
  cases buffer with
  | none =>
    refine iff_of_true (fun _ _ => rfl) ?_
    intro bytes hbytes
    cases hbytes
  | some bytes =>
    by_cases hopens : SaveOpens sys zone hourNumber disk
    · obtain ⟨hrv, hfile⟩ := hourSave_opens hopens bytes
      have hload : (∀ sys', hourLoad sys' zone hourNumber
          (hourSave sys zone hourNumber (some bytes) disk).2 = hourLoad sys' zone hourNumber disk) ↔
          LoadsAlike hourFileMaxSize (disk.files (zejfDayPath zone hourNumber))
            (bytes.take sys.flushed) := by
        rw [← loadFile_loadsFiles.alike_iff]
        refine forall_congr' (fun sys' => ?_)
        rw [hourLoad_eq, hourLoad_eq, hfile]
      have hok : (hourSave sys zone hourNumber (some bytes) disk).1 = .ok ↔
          sys.fwrite = true ∧ bytes ≠ [] := by
        rw [hrv]
        split <;> simp_all
      rw [KeepsOnFailure, hload, Ne, hok, ← or_iff_not_imp_left]
      constructor
      · rintro hkeeps bytes' hbytes -
        rwa [← Option.some_inj.mp hbytes]
      · intro hkeeps
        exact hkeeps bytes rfl hopens
    · have hfiles := hourSave_not_opens hopens bytes
      refine iff_of_true ?_ (fun _ _ h => absurd h hopens)
      intro _ sys'
      exact hourLoad_congr _ _ _ (congrFun hfiles _)

namespace Card

lemma mkdirsLoop_files (sys : CardCalls) (names : List (List UInt8)) (disk : Disk) :
    (mkdirsLoop sys names disk).files = disk.files := by
  have hmkdir : ∀ name disk, (fMkdir sys name disk).2.files = disk.files := by
    intro name disk
    unfold fMkdir
    split_ifs <;> rfl
  induction names generalizing disk with
  | nil => rfl
  | cons name names ih =>
    have hfiles := hmkdir name disk
    unfold mkdirsLoop
    split
    · rename_i disk' h
      rw [ih, ← hfiles, h]
    · rename_i disk' h
      rw [ih, ← hfiles, h]
    · rename_i disk' _ _ h
      rw [← hfiles, h]

lemma mkdirs_files (sys : CardCalls) (path : List UInt8) (disk : Disk) :
    (mkdirs sys path disk).2.files = disk.files := by
  unfold mkdirs
  split
  · rfl
  · rfl
  · exact mkdirsLoop_files _ _ _
  · rfl

/-- A save that does not get to the file leaves all files alone and fails. -/
lemma hourSave_not_reaches {sys : CardCalls} {hourNumber : UInt32} {disk : Disk}
    (h : ¬SaveReaches sys hourNumber disk) (buffer : List UInt8) :
    (hourSave sys hourNumber buffer disk).2.files = disk.files := by
  have hfiles := mkdirs_files sys (filePath hourNumber) disk
  unfold SaveReaches at h
  unfold hourSave cardWrite
  generalize mkdirs sys (filePath hourNumber) disk = made at h hfiles ⊢
  obtain ⟨made, disk'⟩ := made
  dsimp only at h hfiles ⊢
  cases made with
  | false => exact hfiles
  | true =>
    have hcreate : ∃ rv, rv ≠ .ok ∧ fCreate sys (filePath hourNumber) disk' = (rv, disk') := by
      unfold fCreate
      by_cases hfolder : filePath hourNumber ∈ disk'.folders
      · exact ⟨.other, by decide, if_pos hfolder⟩
      · have hmissing : hasFolder (filePath hourNumber) disk' = false := by
          simpa [hfolder] using h
        rw [if_neg hfolder, hmissing]
        exact ⟨.noPath, by decide, rfl⟩
    obtain ⟨rv, hrv, hcreate⟩ := hcreate
    rw [hcreate]
    cases rv with
    | ok => exact absurd rfl hrv
    | _ => exact hfiles

/-- What a save that gets to the file makes of it. -/
lemma hourSave_reaches {sys : CardCalls} {hourNumber : UInt32} {disk : Disk}
    (h : SaveReaches sys hourNumber disk) (buffer : List UInt8) :
    match sys.create with
    | .opened =>
      (hourSave sys hourNumber buffer disk).1 =
          (if sys.close && min sys.written buffer.length == buffer.length then .ok else .io) ∧
        (hourSave sys hourNumber buffer disk).2.files (filePath hourNumber) =
          some (buffer.take (if sys.close then min sys.written buffer.length else sys.flushed))
    | .refused => (hourSave sys hourNumber buffer disk).2.files = disk.files
    | .broken =>
      (hourSave sys hourNumber buffer disk).1 = .io ∧
        (hourSave sys hourNumber buffer disk).2.files (filePath hourNumber) =
          (disk.files (filePath hourNumber)).map (fun _ => []) := by
  have hfiles := mkdirs_files sys (filePath hourNumber) disk
  unfold SaveReaches at h
  unfold hourSave cardWrite
  generalize mkdirs sys (filePath hourNumber) disk = made at h hfiles ⊢
  obtain ⟨made, disk'⟩ := made
  dsimp only at h hfiles ⊢
  obtain ⟨rfl, hname, hfolder⟩ := h
  have hcreate : fCreate sys (filePath hourNumber) disk' = match sys.create with
      | .opened => (.ok, { disk' with
          files := Function.update disk'.files (filePath hourNumber) (some []) })
      | .refused => (.other, disk')
      | .broken => (.other, { disk' with
          files := Function.update disk'.files (filePath hourNumber)
            ((disk'.files (filePath hourNumber)).map (fun _ => [])) }) := by
    rw [fCreate, if_neg hname, hfolder]
    rfl
  rw [hcreate]
  cases sys.create with
  | opened => exact ⟨rfl, Function.update_self _ _ _⟩
  | refused => exact hfiles
  | broken =>
    refine ⟨rfl, (Function.update_self _ _ _).trans ?_⟩
    rw [hfiles]

/-- When a failed save on the card keeps the previous file. -/
lemma hourSave_keepsOnFailure_iff (sys : CardCalls) (maxSize : ℕ) (hourNumber : UInt32)
    (buffer : List UInt8) (disk : Disk) :
    KeepsOnFailure (hourSave sys hourNumber buffer)
        (fun sys disk => hourLoad sys maxSize hourNumber disk) disk ↔
      SaveKeeps sys maxSize hourNumber buffer disk := by
  have hload : ∀ disk' new, disk'.files (filePath hourNumber) = some new →
      ((∀ sys', hourLoad sys' maxSize hourNumber disk' = hourLoad sys' maxSize hourNumber disk) ↔
        LoadsAlike maxSize (disk.files (filePath hourNumber)) new) := by
    intro disk' new hnew
    rw [← (loadFile_loadsFiles maxSize).alike_iff]
    refine forall_congr' (fun sys' => ?_)
    rw [hourLoad_eq, hourLoad_eq, hnew]
  have hkept : ∀ disk', disk'.files (filePath hourNumber) = disk.files (filePath hourNumber) →
      ∀ sys', hourLoad sys' maxSize hourNumber disk' = hourLoad sys' maxSize hourNumber disk := by
    intro disk' hsame sys'
    rw [hourLoad_eq, hourLoad_eq, hsame]
  by_cases hreaches : SaveReaches sys hourNumber disk
  · have hsave := hourSave_reaches hreaches buffer
    rw [SaveKeeps, KeepsOnFailure, forall_prop_of_true hreaches]
    cases hcreate : sys.create with
    | opened =>
      rw [hcreate] at hsave
      obtain ⟨hrv, hfile⟩ := hsave
      have hok : (hourSave sys hourNumber buffer disk).1 = .ok ↔
          sys.close = true ∧ buffer.length ≤ sys.written := by
        rw [hrv]
        split <;> simp_all
      rw [hload _ _ hfile, Ne, hok, ← or_iff_not_imp_left]
    | refused =>
      rw [hcreate] at hsave
      exact iff_of_true (fun _ => hkept _ (congrFun hsave _)) trivial
    | broken =>
      rw [hcreate] at hsave
      obtain ⟨hrv, hfile⟩ := hsave
      have hfails : (hourSave sys hourNumber buffer disk).1 ≠ .ok := by
        rw [hrv]
        decide
      rw [forall_prop_of_true hfails]
      cases hold : disk.files (filePath hourNumber) with
      | none =>
        rw [hold] at hfile
        exact iff_of_true (hkept _ (hfile.trans hold.symm)) (Or.inl rfl)
      | some content =>
        rw [hold] at hfile
        rw [hload _ [] hfile, hold]
        simp
  · have hfiles := hourSave_not_reaches hreaches buffer
    exact iff_of_true (fun _ => hkept _ (congrFun hfiles _)) (fun h => absurd h hreaches)

end Card

/-- **When a failed save keeps the previous file**, on the server and on a sensor's card. -/
theorem failedSaves_keep_iff (sys : SystemCalls) (zone : TimeZone)
    (cardSys : Card.CardCalls) (maxSize : ℕ) (hourNumber : UInt32) (buffer : Option (List UInt8))
    (cardBuffer : List UInt8) (disk : Disk) :
    (KeepsOnFailure (hourSave sys zone hourNumber buffer)
        (fun sys disk => hourLoad sys zone hourNumber disk) disk ↔
      SaveKeeps sys zone hourNumber buffer disk) ∧
    (KeepsOnFailure (Card.hourSave cardSys hourNumber cardBuffer)
        (fun sys disk => Card.hourLoad sys maxSize hourNumber disk) disk ↔
      Card.SaveKeeps cardSys maxSize hourNumber cardBuffer disk) :=
  ⟨hourSave_keepsOnFailure_iff sys zone hourNumber buffer disk,
    Card.hourSave_keepsOnFailure_iff cardSys maxSize hourNumber cardBuffer disk⟩

/-- A disk with one hour on it. -/
def oneFile (path : List UInt8) : Disk where
  files := Function.update (fun _ => none) path (some [1])
  folders := [(path.rdropWhile (· ≠ slash)).dropLast]

/-- More than `fwrite` keeps in its buffer of 4096 bytes. -/
def twoBlocks : List UInt8 := List.replicate 8192 2

/-- On the server the disk is full but for the block of the file that has been emptied, and on the
card `f_write` ends with an error: the hour is gone. -/
theorem failedWrite_not_keeps :
    (¬KeepsOnFailure (hourSave { workingCalls with fwrite := false, flushed := 4096 }
        TimeZone.summerTime 471816 (some twoBlocks))
      (fun sys disk => hourLoad sys TimeZone.summerTime 471816 disk)
      (oneFile (zejfDayPath TimeZone.summerTime 471816))) ∧
    ¬KeepsOnFailure (Card.hourSave { Card.workingCalls with written := 0 } 471816 twoBlocks)
      (fun sys disk => Card.hourLoad sys hourFileMaxSize 471816 disk)
      (oneFile (Card.filePath 471816)) := by
  constructor
  · intro hkeeps
    have hsame := hkeeps (by decide +kernel) workingCalls
    revert hsame
    decide +kernel
  · intro hkeeps
    have hsame := hkeeps (by decide +kernel) Card.workingCalls
    revert hsame
    decide +kernel

end ZejfMeteo
