import ZejfMeteo.Defs
import ZejfMeteo.Lib.Calendar
import ZejfMeteo.Lib.Format
import Mathlib.Data.List.DropRight

/-!
# The files of the server

`zejf_day_path` names the file of an hour after the local time of its beginning, and
`hour_save` and `hour_load` keep the bytes of the hour in that file.
-/

namespace ZejfMeteo
open Calendar Format

/-- A time-zone rule: by how many seconds the local time is ahead of UTC at every instant.
Offsets have 32 bits. -/
structure TimeZone where
  offset : ℤ → ℤ
  neg_le : ∀ t, -2 ^ 31 ≤ offset t
  lt : ∀ t, offset t < 2 ^ 31

/-- The fields of `struct tm` that are read. -/
@[ext]
structure Tm where
  date : Date
  hour : ℕ
  hour_lt : hour < 24

def localtime (zone : TimeZone) (now : ℤ) : Tm where
  date := dateOf ((now + zone.offset now) / 86400)
  hour := ((now + zone.offset now) % 86400 / 3600).toNat
  hour_lt := by omega

/-- The number of the hour on the clock, counted from 1970-01-01. -/
def clockHour (zone : TimeZone) (now : ℤ) : ℤ := (now + zone.offset now) / 3600

def slash : UInt8 := 0x2F

/-- `MAIN_FOLDER`. -/
def mainFolder : List UInt8 := ascii "./ZejfMeteo/"

def months : Vector String 12 :=
  #v["January", "February", "March", "April", "May", "June", "July", "August", "September",
    "October", "November", "December"]

/-- `%d` and `%H`. -/
def twoDigits (n : ℕ) : List UInt8 := [digitByte (n / 10), digitByte (n % 10)]

def Tm.path (t : Tm) : List UInt8 :=
  mainFolder ++ ascii "data/" ++ (decimal t.date.year.toNat ++ [slash]) ++
    ascii (months.get t.date.month) ++
    ([slash] ++ twoDigits t.date.day ++ ascii "_" ++ twoDigits t.hour ++ ascii "H.dat")

def zejfDayPath (zone : TimeZone) (hourNumber : UInt32) : List UInt8 :=
  (localtime zone (hourNumber.toNat * 60 * 60)).path

/-- `HOUR_FILE_MAX_SIZE`. -/
def hourFileMaxSize : ℕ := 1024 * 1024 * 8

structure Disk where
  files : List UInt8 → Option (List UInt8)
  folders : List (List UInt8)

/-- Paths are compared byte by byte. -/
instance lawfulBEqPath : LawfulBEq (List UInt8) := inferInstance

/-- Which calls succeed where the disk does not decide it, and how many bytes of a saved
buffer get to the disk. -/
structure SystemCalls where
  mkdir : List UInt8 → Bool
  fopen : Bool
  fwrite : Bool
  flushed : ℕ
  malloc : Bool
  fread : Bool

inductive Errno
  | eexist
  | other

def mkdir (sys : SystemCalls) (path : List UInt8) (disk : Disk) : Except Errno Disk :=
  if path ∈ disk.folders ∨ (disk.files path).isSome then throw .eexist
  else if sys.mkdir path then return { disk with folders := path :: disk.folders }
  else throw .other

/-- What stands before each slash of a path, the first character aside. -/
def folderNames (path : List UInt8) : List (List UInt8) :=
  ((List.range path.length).filter (fun i => 0 < i ∧ path[i]? = some slash)).map path.take

/-- The loop of `mkpath` over the slashes. -/
def mkpath (sys : SystemCalls) : List (List UInt8) → Disk → ℤ × Disk
  | [], disk => (0, disk)
  | name :: names, disk =>
    match mkdir sys name disk with
    | .ok disk => mkpath sys names disk
    | .error .eexist => mkpath sys names disk
    | .error .other => (-1, disk)

def hourSave (sys : SystemCalls) (zone : TimeZone) (hourNumber : UInt32)
    (buffer : Option (List UInt8)) (disk : Disk) : ZejfErr × Disk :=
  match buffer with
  | none => (.null, disk)
  | some buffer =>
    let path := zejfDayPath zone hourNumber
    let pathOnly := path.rdropWhile (· ≠ slash)
    let (rv, disk) :=
      if pathOnly.dropLast ∈ disk.folders then (0, disk)
      else mkpath sys (folderNames pathOnly) disk
    if rv ≠ 0 then (.io, disk)
    else if !sys.fopen then (.io, disk)
    else
      let result := sys.fwrite && !buffer.isEmpty
      (if result then .ok else .io,
        { disk with files := Function.update disk.files path (some (buffer.take sys.flushed)) })

def hourLoad (sys : SystemCalls) (zone : TimeZone) (hourNumber : UInt32) (disk : Disk) :
    ZejfErr × List UInt8 :=
  match disk.files (zejfDayPath zone hourNumber) with
  | none => (.fileDoesntExist, [])
  | some content =>
    if !sys.fopen then (.io, [])
    else if hourFileMaxSize < content.length then (.io, [])
    else if !sys.malloc then (.io, [])
    else if content.isEmpty || !sys.fread then (.io, [])
    else (.ok, content)

lemma localtime_year_nonneg (zone : TimeZone) {now : ℤ} (h : 0 ≤ now) :
    0 ≤ (localtime zone now).date.year := by
  have hoff := zone.neg_le now
  apply year_nonneg
  omega

/-- Broken-down time down to the hour is the hour of the clock. -/
lemma localtime_eq_iff (zone : TimeZone) (now now' : ℤ) :
    localtime zone now = localtime zone now' ↔ clockHour zone now = clockHour zone now' := by
  unfold localtime clockHour
  constructor
  · intro h
    obtain ⟨hdate, hhour⟩ := Tm.mk.inj h
    have hdays := dateOf_injective hdate
    omega
  · intro h
    have hdays : (now + zone.offset now) / 86400 = (now' + zone.offset now') / 86400 := by omega
    have hhour : (now + zone.offset now) % 86400 / 3600 =
        (now' + zone.offset now') % 86400 / 3600 := by omega
    ext1
    · exact congrArg dateOf hdays
    · exact congrArg Int.toNat hhour

lemma twoDigits_inj {m n : ℕ} (hm : m < 100) (hn : n < 100) (h : twoDigits m = twoDigits n) :
    m = n := by
  obtain ⟨h1, h2⟩ := List.cons.inj h
  have htens := congrArg UInt8.toNat h1
  have hones := congrArg UInt8.toNat (List.cons.inj h2).1
  rw [digitByte_toNat (by omega), digitByte_toNat (by omega)] at htens hones
  omega

lemma months_inj : ∀ m n : Fin 12, ascii (months.get m) = ascii (months.get n) → m = n := by
  decide +kernel

lemma slash_notMem_months : ∀ m : Fin 12, slash ∉ ascii (months.get m) := by
  decide +kernel

/-- A part of a path without a slash is read off the path. -/
lemma part_inj {s s' t t' : List UInt8} (hs : slash ∉ s) (hs' : slash ∉ s')
    (h : s ++ slash :: t = s' ++ slash :: t') : s = s' ∧ t = t' := by
  have hstop : ∀ s : List UInt8, slash ∉ s → ∀ c ∈ s, (c != slash) = true := by
    intro s hs c hc
    rw [bne_iff_ne]
    rintro rfl
    exact hs hc
  obtain ⟨h1, h2⟩ := append_inj_stop (hstop s hs) (hstop s' hs') (by simp) (by simp) h
  exact ⟨h1, (List.cons.inj h2).2⟩

lemma slash_notMem_decimal (n : ℕ) : slash ∉ decimal n := fun h =>
  absurd (isDigit_of_mem_decimal h) (by decide)

/-- A path shows the time down to the hour. -/
lemma Tm.path_inj {t t' : Tm} (ht : 0 ≤ t.date.year) (ht' : 0 ≤ t'.date.year)
    (h : t.path = t'.path) : t = t' := by
  have hday := t.date.day_le
  have hday' := t'.date.day_le
  have hhour := t.hour_lt
  have hhour' := t'.hour_lt
  simp only [Tm.path, List.append_assoc, List.append_cancel_left_eq, List.singleton_append] at h
  obtain ⟨hyear, h⟩ := part_inj (slash_notMem_decimal _) (slash_notMem_decimal _) h
  obtain ⟨hmonth, h⟩ := part_inj (slash_notMem_months _) (slash_notMem_months _) h
  obtain ⟨hdays, h⟩ := List.append_inj h rfl
  obtain ⟨hhours, -⟩ := List.append_inj (List.append_cancel_left h) rfl
  have hy := decimal_injective hyear
  ext
  · omega
  · exact congrArg Fin.val (months_inj _ _ hmonth)
  · exact twoDigits_inj (by omega) (by omega) hdays
  · exact twoDigits_inj (by omega) (by omega) hhours

/-- Two hours have the same file exactly if the clock shows the same hour. -/
theorem zejfDayPath_eq_iff (zone : TimeZone) (h h' : UInt32) :
    zejfDayPath zone h = zejfDayPath zone h' ↔
      clockHour zone (h.toNat * 60 * 60) = clockHour zone (h'.toNat * 60 * 60) := by
  rw [← localtime_eq_iff]
  constructor
  · intro hpath
    exact Tm.path_inj (localtime_year_nonneg zone (by omega))
      (localtime_year_nonneg zone (by omega)) hpath
  · intro ht
    exact congrArg Tm.path ht

lemma mkdir_files {sys : SystemCalls} {path : List UInt8} {disk disk' : Disk}
    (h : mkdir sys path disk = .ok disk') : disk'.files = disk.files := by
  unfold mkdir at h
  split at h
  · cases h
  · split at h
    · rw [← Except.ok.inj h]
    · cases h

lemma mkpath_files (sys : SystemCalls) (names : List (List UInt8)) (disk : Disk) :
    (mkpath sys names disk).2.files = disk.files := by
  induction names generalizing disk with
  | nil => rfl
  | cons name names ih =>
    unfold mkpath
    split
    · rename_i disk' h
      rw [ih, mkdir_files h]
    · exact ih disk
    · rfl

/-- Saving changes at most the file of the hour. -/
lemma hourSave_files (sys : SystemCalls) (zone : TimeZone) (hourNumber : UInt32)
    (buffer : Option (List UInt8)) (disk : Disk) {path : List UInt8}
    (hpath : path ≠ zejfDayPath zone hourNumber) :
    (hourSave sys zone hourNumber buffer disk).2.files path = disk.files path := by
  cases buffer with
  | none => rfl
  | some buffer =>
    unfold hourSave
    dsimp only
    generalize hfolder : (if (List.rdropWhile (· ≠ slash) (zejfDayPath zone hourNumber)).dropLast ∈
      disk.folders then ((0 : ℤ), disk) else mkpath sys _ disk) = made
    have hfiles : made.2.files = disk.files := by
      rw [← hfolder]
      split
      · rfl
      · exact mkpath_files _ _ _
    split
    · rw [hfiles]
    · split
      · rw [hfiles]
      · rw [hfiles]
        exact Function.update_of_ne hpath _ _

/-- What loading returns depends on the file of the hour only. -/
lemma hourLoad_congr (sys : SystemCalls) (zone : TimeZone) (hourNumber : UInt32)
    {disk disk' : Disk} (h : disk'.files (zejfDayPath zone hourNumber) =
      disk.files (zejfDayPath zone hourNumber)) :
    hourLoad sys zone hourNumber disk' = hourLoad sys zone hourNumber disk := by
  unfold hourLoad
  rw [h]

/-- The hours have different files, and saving one does not change what loading the other
returns. -/
structure FilesApart (zone : TimeZone) (h h' : UInt32) : Prop where
  path : zejfDayPath zone h ≠ zejfDayPath zone h'
  load : ∀ sys sys' buffer disk,
    hourLoad sys' zone h' (hourSave sys zone h buffer disk).2 = hourLoad sys' zone h' disk

/-- The offset of a time zone at the beginning of an hour, in whole hours. -/
def TimeZone.wholeHours (zone : TimeZone) (hourNumber : UInt32) : ℤ :=
  zone.offset (hourNumber.toNat * 60 * 60) / 3600

lemma clockHour_eq (zone : TimeZone) (hourNumber : UInt32) :
    clockHour zone (hourNumber.toNat * 60 * 60) = hourNumber.toNat + zone.wholeHours hourNumber := by
  unfold clockHour TimeZone.wholeHours
  omega

/-- Two hours live apart exactly if the offset does not fall, from one to the other, by the
hours between them. -/
theorem filesApart_iff (zone : TimeZone) (h h' : UInt32) : FilesApart zone h h' ↔
    zone.wholeHours h - zone.wholeHours h' ≠ (h'.toNat : ℤ) - h.toNat := by
  have hpath := zejfDayPath_eq_iff zone h h'
  rw [clockHour_eq, clockHour_eq] at hpath
  constructor
  · intro hapart hfall
    apply hapart.path
    rw [hpath]
    omega
  · intro hfall
    have hdiff : zejfDayPath zone h ≠ zejfDayPath zone h' := by
      rw [Ne, hpath]
      omega
    refine ⟨hdiff, ?_⟩
    intro sys sys' buffer disk
    exact hourLoad_congr _ _ _ (hourSave_files _ _ _ _ _ hdiff.symm)

/-- Where the clock is never changed, all hours live apart. -/
theorem filesApart_of_constant {zone : TimeZone} (hzone : ∀ t t', zone.offset t = zone.offset t')
    {h h' : UInt32} (hne : h ≠ h') : FilesApart zone h h' := by
  have hnum : h.toNat ≠ h'.toNat := fun he => hne (UInt32.toNat_inj.mp he)
  have hwhole : zone.wholeHours h = zone.wholeHours h' := by
    unfold TimeZone.wholeHours
    rw [hzone]
  rw [filesApart_iff, hwhole]
  omega

/-- Summer time ends at 01:00 UTC on 29 October 2023. -/
def TimeZone.summerTime : TimeZone where
  offset t := if t < 1698541200 then 7200 else 3600
  neg_le t := by split <;> decide
  lt t := by split <;> decide

def emptyDisk : Disk := ⟨fun _ => none, []⟩

/-- Everything succeeds. -/
def workingCalls : SystemCalls := ⟨fun _ => true, true, true, hourFileMaxSize, true, true⟩

/-- Both hours from two to three of that night are in the file `29_02H.dat`. -/
theorem summerTime_oneFile : ¬FilesApart TimeZone.summerTime 471816 471817 ∧
    hourLoad workingCalls TimeZone.summerTime 471817 emptyDisk = (.fileDoesntExist, []) ∧
    hourLoad workingCalls TimeZone.summerTime 471817
      (hourSave workingCalls TimeZone.summerTime 471816 (some [1]) emptyDisk).2 = (.ok, [1]) := by
  have hsame : zejfDayPath TimeZone.summerTime 471816 = zejfDayPath TimeZone.summerTime 471817 :=
    (zejfDayPath_eq_iff _ _ _).mpr (by decide)
  refine ⟨fun h => h.path hsame, rfl, ?_⟩
  decide +kernel

end ZejfMeteo
