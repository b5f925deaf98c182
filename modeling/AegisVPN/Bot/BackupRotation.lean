import Mathlib.Data.List.Perm.Subperm
import Mathlib.Data.String.Basic
import AegisVPN.Library.Digits
import AegisVPN.Library.SortedBy

namespace AegisVPN
open Library
set_option autoImplicit true

/-! # The rotation of the backups -/

/-! ## Archives -/

/-- The minute at which an archive is written. -/
structure ArchiveStamp where
  year : Nat
  month : Nat
  day : Nat
  hour : Nat
  minute : Nat
  year_range : 1000 ≤ year ∧ year < 10000
  month_range : 1 ≤ month ∧ month ≤ 12
  day_range : 1 ≤ day ∧ day ≤ 31
  hour_lt : hour < 24
  minute_lt : minute < 60
  deriving DecidableEq

/-- Stamps have the order of these numbers in time. -/
def ArchiveStamp.moment (stamp : ArchiveStamp) : Nat :=
  ((((stamp.year * 13 + stamp.month) * 32 + stamp.day) * 24 + stamp.hour) * 60) + stamp.minute

/-- Stamps have the order of these numbers where the day of the month comes first. -/
def ArchiveStamp.dayFirst (stamp : ArchiveStamp) : Nat :=
  ((((stamp.day * 13 + stamp.month) * 10000 + stamp.year) * 24 + stamp.hour) * 60) + stamp.minute

/-- The day, the month, the year and the time between two texts. -/
def ArchiveStamp.text (stamp : ArchiveStamp) (before after : List Char) : List Char :=
  before ++ (padded 2 stamp.day ++ ('.' :: (padded 2 stamp.month ++ ('.' :: (padded 4 stamp.year ++
    ('-' :: (padded 2 stamp.hour ++ (':' :: (padded 2 stamp.minute ++ after)))))))))

/-- The name of the archive in the directory. -/
def ArchiveStamp.name (stamp : ArchiveStamp) : String :=
  String.ofList (stamp.text "AegisVPN-BACKUP-".toList ".aegis".toList)

/-! ## The rotation -/

/-- The last archives by their names are kept. -/
def rotateBackups (keep : Int) (archives : List ArchiveStamp) : List ArchiveStamp :=
  let backups := archives.insertionSort fun a b => a.name ≤ b.name
  let old := backups.take (backups.length - (max 1 keep).toNat)
  archives.filter fun stamp => stamp ∉ old

/-- An archive of the same minute is replaced. -/
def replaceArchive (archives : List ArchiveStamp) (now : ArchiveStamp) : List ArchiveStamp :=
  if now ∈ archives then archives else archives ++ [now]

/-- What a run finds: the clock, and whether the database is SQLite and there, and the public key
can be read. -/
structure BackupRun where
  now : ArchiveStamp
  sqlite : Bool
  database : Bool
  publicKey : Bool

inductive BackupResult
  | skipped
  | keyMissing
  | archive (stamp : ArchiveStamp)
  deriving DecidableEq

def makeFullBackup (keep : Int) (archives : List ArchiveStamp) (run : BackupRun) :
    BackupResult × List ArchiveStamp :=
  if !run.sqlite then (.skipped, archives)
  else if !run.database then (.skipped, archives)
  else if !run.publicKey then (.keyMissing, archives)
  else (.archive run.now, rotateBackups keep (replaceArchive archives run.now))

/-! ## The order of the names -/

theorem pair_lt_iff {x x' y y' m : Nat} (hy : y < m) (hy' : y' < m) :
    x * m + y < x' * m + y' ↔ x < x' ∨ x = x' ∧ y < y' := by
  constructor
  · intro h
    rcases Nat.lt_trichotomy x x' with hlt | rfl | hgt
    · exact .inl hlt
    · exact .inr ⟨rfl, by omega⟩
    · have hmul : (x' + 1) * m ≤ x * m := Nat.mul_le_mul_right m hgt
      rw [Nat.add_mul, Nat.one_mul] at hmul
      omega
  · rintro (hlt | ⟨rfl, hlt⟩)
    · have hmul : (x + 1) * m ≤ x' * m := Nat.mul_le_mul_right m hlt
      rw [Nat.add_mul, Nat.one_mul] at hmul
      omega
    · omega

theorem pair_eq_iff {x x' y y' m : Nat} (hy : y < m) (hy' : y' < m) :
    x * m + y = x' * m + y' ↔ x = x' ∧ y = y' := by
  constructor
  · intro heq
    have hnot := Nat.lt_irrefl (x' * m + y')
    rcases Nat.lt_trichotomy x x' with hlt | rfl | hgt
    · exact absurd (heq ▸ (pair_lt_iff hy hy').2 (.inl hlt)) hnot
    · exact ⟨rfl, Nat.add_left_cancel heq⟩
    · exact absurd (heq ▸ (pair_lt_iff hy' hy).2 (.inl hgt)) hnot
  · rintro ⟨rfl, rfl⟩
    rfl

theorem padded_inj_iff {width : Nat} (hm : m < 10 ^ width) (hn : n < 10 ^ width) :
    padded width m = padded width n ↔ m = n := by
  constructor
  · intro heq
    apply Nat.le_antisymm
    · rw [← Nat.not_lt, ← padded_lt_iff hn hm, heq]
      exact List.lt_irrefl _
    · rw [← Nat.not_lt, ← padded_lt_iff hm hn, heq]
      exact List.lt_irrefl _
  · exact congrArg _

theorem padded_append_lt_iff {width : Nat} (hm : m < 10 ^ width) (hn : n < 10 ^ width)
    {sep : Char} {s t : List Char} : padded width m ++ (sep :: s) < padded width n ++ (sep :: t) ↔
      m < n ∨ m = n ∧ s < t := by
  rw [append_lt_append_iff (by rw [length_padded, length_padded]), padded_lt_iff hm hn,
    padded_inj_iff hm hn, List.cons_lt_cons_iff]
  simp

theorem same_append_lt_iff {a s t : List Char} : a ++ s < a ++ t ↔ s < t := by
  rw [append_lt_append_iff rfl]
  simp

theorem padded_end_lt_iff {width : Nat} (hm : m < 10 ^ width) (hn : n < 10 ^ width)
    {s : List Char} : padded width m ++ s < padded width n ++ s ↔ m < n := by
  rw [append_lt_append_iff (by rw [length_padded, length_padded]), padded_lt_iff hm hn]
  simp

theorem text_lt_iff (a b : ArchiveStamp) (before after : List Char) :
    a.text before after < b.text before after ↔ a.day < b.day ∨ a.day = b.day ∧
      (a.month < b.month ∨ a.month = b.month ∧ (a.year < b.year ∨ a.year = b.year ∧
        (a.hour < b.hour ∨ a.hour = b.hour ∧ a.minute < b.minute))) := by
  have hday : ∀ stamp : ArchiveStamp, stamp.day < 10 ^ 2 := fun stamp =>
    stamp.day_range.2.trans_lt (by decide)
  have hmonth : ∀ stamp : ArchiveStamp, stamp.month < 10 ^ 2 := fun stamp =>
    stamp.month_range.2.trans_lt (by decide)
  have hyear : ∀ stamp : ArchiveStamp, stamp.year < 10 ^ 4 := fun stamp => stamp.year_range.2
  have hhour : ∀ stamp : ArchiveStamp, stamp.hour < 10 ^ 2 := fun stamp =>
    stamp.hour_lt.trans (by decide)
  have hminute : ∀ stamp : ArchiveStamp, stamp.minute < 10 ^ 2 := fun stamp =>
    stamp.minute_lt.trans (by decide)
  rw [ArchiveStamp.text, ArchiveStamp.text, same_append_lt_iff,
    padded_append_lt_iff (hday a) (hday b), padded_append_lt_iff (hmonth a) (hmonth b),
    padded_append_lt_iff (hyear a) (hyear b), padded_append_lt_iff (hhour a) (hhour b),
    padded_end_lt_iff (hminute a) (hminute b)]

theorem ofList_lt_iff {s t : List Char} : String.ofList s < String.ofList t ↔ s < t := by
  rw [String.lt_iff_toList_lt, String.toList_ofList, String.toList_ofList]

/-- The names are sorted by the day of the month first. -/
theorem name_lt_iff (a b : ArchiveStamp) : a.name < b.name ↔ a.dayFirst < b.dayFirst := by
  have hmonth : ∀ stamp : ArchiveStamp, stamp.month < 13 := fun stamp =>
    Nat.lt_succ_of_le stamp.month_range.2
  rw [ArchiveStamp.name, ArchiveStamp.name, ofList_lt_iff, text_lt_iff, ArchiveStamp.dayFirst,
    ArchiveStamp.dayFirst, pair_lt_iff a.minute_lt b.minute_lt, pair_lt_iff a.hour_lt b.hour_lt,
    pair_lt_iff a.year_range.2 b.year_range.2, pair_lt_iff (hmonth a) (hmonth b),
    pair_eq_iff a.hour_lt b.hour_lt, pair_eq_iff a.year_range.2 b.year_range.2,
    pair_eq_iff (hmonth a) (hmonth b)]
  omega

theorem dayFirst_inj {a b : ArchiveStamp} (h : a.dayFirst = b.dayFirst) : a = b := by
  have hmonth : ∀ stamp : ArchiveStamp, stamp.month < 13 := fun stamp =>
    Nat.lt_succ_of_le stamp.month_range.2
  rw [ArchiveStamp.dayFirst, ArchiveStamp.dayFirst, pair_eq_iff a.minute_lt b.minute_lt,
    pair_eq_iff a.hour_lt b.hour_lt, pair_eq_iff a.year_range.2 b.year_range.2,
    pair_eq_iff (hmonth a) (hmonth b)] at h
  obtain ⟨⟨⟨⟨hday, hmonth⟩, hyear⟩, hhour⟩, hminute⟩ := h
  cases a
  cases b
  cases hday
  cases hmonth
  cases hyear
  cases hhour
  cases hminute
  rfl

theorem moment_inj {a b : ArchiveStamp} (h : a.moment = b.moment) : a = b := by
  have hmonth : ∀ stamp : ArchiveStamp, stamp.month < 13 := fun stamp =>
    Nat.lt_succ_of_le stamp.month_range.2
  have hday : ∀ stamp : ArchiveStamp, stamp.day < 32 := fun stamp =>
    Nat.lt_succ_of_le stamp.day_range.2
  rw [ArchiveStamp.moment, ArchiveStamp.moment, pair_eq_iff a.minute_lt b.minute_lt,
    pair_eq_iff a.hour_lt b.hour_lt, pair_eq_iff (hday a) (hday b),
    pair_eq_iff (hmonth a) (hmonth b)] at h
  obtain ⟨⟨⟨⟨hyear, hmonth⟩, hday⟩, hhour⟩, hminute⟩ := h
  cases a
  cases b
  cases hday
  cases hmonth
  cases hyear
  cases hhour
  cases hminute
  rfl

theorem name_le_iff (a b : ArchiveStamp) : a.name ≤ b.name ↔ a.dayFirst ≤ b.dayFirst := by
  rw [← not_lt, ← not_lt, name_lt_iff]

/-! ## What the rotation keeps -/

/-- How many of the archives come after the stamp where the day of the month comes first. -/
def followers (archives : List ArchiveStamp) (stamp : ArchiveStamp) : Nat :=
  archives.countP fun other => stamp.dayFirst < other.dayFirst

theorem filter_not_mem_take {s : List ArchiveStamp} (hnodup : s.Nodup) (n : Nat) :
    s.filter (fun stamp => stamp ∉ s.take n) = s.drop n := by
  conv_lhs => rw [← List.take_append_drop n s]
  rw [List.filter_append, List.filter_eq_nil_iff.2, List.nil_append, List.filter_eq_self]
  · intro stamp hstamp
    rw [← List.take_append_drop n s] at hnodup
    simpa using fun htake => (List.nodup_append.1 hnodup).2.2 stamp htake stamp hstamp rfl
  · intro stamp hstamp
    simpa using hstamp

theorem rotateBackups_perm {archives : List ArchiveStamp} (hnodup : archives.Nodup)
    {keep : Int} (hkeep : 1 ≤ keep) :
    (rotateBackups keep archives).Perm ((archives.insertionSort fun a b => a.name ≤ b.name).drop
      (archives.length - keep.toNat)) := by
  have hperm := List.perm_insertionSort (fun a b : ArchiveStamp => a.name ≤ b.name) archives
  rw [rotateBackups, max_eq_right hkeep, hperm.length_eq]
  rw [← filter_not_mem_take (hperm.nodup_iff.2 hnodup)]
  exact (hperm.filter _).symm

theorem mem_rotateBackups {archives : List ArchiveStamp} (hnodup : archives.Nodup)
    {keep : Int} (hkeep : 1 ≤ keep) (stamp : ArchiveStamp) :
    stamp ∈ rotateBackups keep archives ↔
      stamp ∈ archives ∧ followers archives stamp < keep.toNat := by
  rw [(rotateBackups_perm hnodup hkeep).mem_iff]
  exact mem_drop_sorted_iff ArchiveStamp.dayFirst name_le_iff
    (fun a _ b _ heq => dayFirst_inj heq) hnodup keep.toNat stamp

theorem length_rotateBackups {archives : List ArchiveStamp} (hnodup : archives.Nodup)
    {keep : Int} (hkeep : 1 ≤ keep) :
    (rotateBackups keep archives).length = min archives.length keep.toNat := by
  rw [(rotateBackups_perm hnodup hkeep).length_eq, List.length_drop, List.length_insertionSort]
  omega

theorem nodup_rotateBackups {archives : List ArchiveStamp} (hnodup : archives.Nodup)
    (keep : Int) : (rotateBackups keep archives).Nodup :=
  hnodup.filter _

theorem mem_replaceArchive {archives : List ArchiveStamp} :
    stamp ∈ replaceArchive archives now ↔ stamp ∈ archives ∨ stamp = now := by
  rw [replaceArchive]
  split
  · constructor
    · exact .inl
    · rintro (hmem | rfl)
      · exact hmem
      · assumption
  · rw [List.mem_append, List.mem_singleton]

theorem nodup_replaceArchive {archives : List ArchiveStamp} (h : archives.Nodup)
    (now : ArchiveStamp) : (replaceArchive archives now).Nodup := by
  rw [replaceArchive]
  split
  · exact h
  · rw [List.nodup_append]
    refine ⟨h, List.nodup_singleton _, fun stamp hstamp other hother heq => ?_⟩
    rw [List.mem_singleton.1 hother] at heq
    subst heq
    contradiction

/-! ## Runs -/

/-- The archives that were ever written, and those in the directory. -/
structure BackupHistory where
  written : List ArchiveStamp
  archives : List ArchiveStamp

def BackupHistory.after (keep : Int) (history : BackupHistory) (run : BackupRun) :
    BackupHistory :=
  match makeFullBackup keep history.archives run with
  | (.archive stamp, archives) => ⟨replaceArchive history.written stamp, archives⟩
  | (_, archives) => ⟨history.written, archives⟩

/-- The archives are the most recent of those that were written, as many as are kept. -/
structure MostRecent (keep : Int) (history : BackupHistory) : Prop where
  nodup : history.archives.Nodup
  subset : ∀ stamp ∈ history.archives, stamp ∈ history.written
  length : history.archives.length = min history.written.length keep.toNat
  recent : ∀ a ∈ history.archives, ∀ b ∈ history.written, b ∉ history.archives →
    b.moment < a.moment

/-- An archive that a run returns is there, and it is among the most recent ones that are left. -/
def KeepsNewest (keep : Int) (history : BackupHistory) (run : BackupRun) : Prop :=
  ∀ stamp, (makeFullBackup keep history.archives run).1 = .archive stamp →
    stamp = run.now ∧ stamp ∈ (history.after keep run).archives ∧
      MostRecent keep (history.after keep run)

/-- Something holds of every run, with what was written before it. -/
def EachRun (keep : Int) (P : BackupHistory → BackupRun → Prop) (history : BackupHistory) :
    List BackupRun → Prop
  | [] => True
  | run :: runs => P history run ∧ EachRun keep P (history.after keep run) runs

/-- With the new archive, those that fewer than the kept ones follow are newer than the others,
where the day of the month comes first. -/
def OrderAgrees (keep : Int) (history : BackupHistory) (run : BackupRun) : Prop :=
  (run.sqlite && run.database && run.publicKey) = true →
    ∀ a ∈ replaceArchive history.archives run.now, ∀ b ∈ replaceArchive history.archives run.now,
      followers (replaceArchive history.archives run.now) a < keep.toNat →
      keep.toNat ≤ followers (replaceArchive history.archives run.now) b → b.moment < a.moment

/-- What the runs before leave. -/
structure BackupHistory.Sound (keep : Int) (history : BackupHistory) : Prop where
  nodup : history.archives.Nodup
  written : history.written.Nodup
  subset : ∀ stamp ∈ history.archives, stamp ∈ history.written
  recent : ∀ a ∈ history.archives, ∀ b ∈ history.written, b ∉ history.archives →
    b.moment < a.moment
  full : (∀ stamp ∈ history.written, stamp ∈ history.archives) ∨
    keep.toNat ≤ history.archives.length

section Step

variable {keep : Int} {history : BackupHistory} {run : BackupRun}

theorem after_ready (h : (run.sqlite && run.database && run.publicKey) = true) :
    makeFullBackup keep history.archives run =
        (.archive run.now, rotateBackups keep (replaceArchive history.archives run.now)) ∧
      history.after keep run = ⟨replaceArchive history.written run.now,
        rotateBackups keep (replaceArchive history.archives run.now)⟩ := by
  rw [Bool.and_eq_true, Bool.and_eq_true] at h
  have hmake : makeFullBackup keep history.archives run =
      (.archive run.now, rotateBackups keep (replaceArchive history.archives run.now)) := by
    simp [makeFullBackup, h]
  exact ⟨hmake, by rw [BackupHistory.after, hmake]⟩

theorem after_idle (h : ¬ (run.sqlite && run.database && run.publicKey) = true) :
    (∀ stamp, (makeFullBackup keep history.archives run).1 ≠ .archive stamp) ∧
      history.after keep run = history := by
  rw [BackupHistory.after, makeFullBackup]
  cases hsqlite : run.sqlite with
  | false => simp
  | true =>
    cases hdatabase : run.database with
    | false => simp
    | true =>
      cases hkey : run.publicKey with
      | false => simp
      | true =>
        rw [hsqlite, hdatabase, hkey] at h
        exact absurd rfl h

theorem BackupHistory.Sound.replace_subset (h : history.Sound keep) (now : ArchiveStamp) :
    ∀ stamp ∈ replaceArchive history.archives now, stamp ∈ replaceArchive history.written now := by
  intro stamp hstamp
  rw [mem_replaceArchive] at hstamp ⊢
  exact hstamp.imp_left (h.subset stamp)

theorem BackupHistory.Sound.length_replace (h : history.Sound keep) (now : ArchiveStamp) :
    min (replaceArchive history.archives now).length keep.toNat =
      min (replaceArchive history.written now).length keep.toNat := by
  have hnodup := nodup_replaceArchive h.nodup now
  have hle := (List.subperm_of_subset hnodup (h.replace_subset now)).length_le
  rcases h.full with hall | hfull
  · have hsubset : ∀ stamp ∈ replaceArchive history.written now,
        stamp ∈ replaceArchive history.archives now := by
      intro stamp hstamp
      rw [mem_replaceArchive] at hstamp ⊢
      exact hstamp.imp_left (hall stamp)
    have hge := (List.subperm_of_subset (nodup_replaceArchive h.written now) hsubset).length_le
    rw [Nat.le_antisymm hle hge]
  · have hmore : history.archives.length ≤ (replaceArchive history.archives now).length :=
      (List.subperm_of_subset h.nodup fun stamp hstamp =>
        mem_replaceArchive.2 (.inl hstamp)).length_le
    omega

theorem mostRecent_iff (hkeep : 1 ≤ keep) (h : history.Sound keep)
    (hpast : ∀ stamp ∈ history.written, stamp.moment ≤ run.now.moment)
    (hready : (run.sqlite && run.database && run.publicKey) = true) :
    MostRecent keep (history.after keep run) ↔ OrderAgrees keep history run := by
  have hnodup := nodup_replaceArchive h.nodup run.now
  rw [(after_ready hready).2]
  constructor
  · intro hrecent _ a ha b hb hfew hmany
    apply hrecent.recent a ((mem_rotateBackups hnodup hkeep a).2 ⟨ha, hfew⟩) b
      (h.replace_subset run.now b hb)
    intro hkept
    exact absurd ((mem_rotateBackups hnodup hkeep b).1 hkept).2 (Nat.not_lt.2 hmany)
  · intro hagrees
    refine ⟨nodup_rotateBackups hnodup keep, fun stamp hstamp => ?_, ?_, fun a ha b hb hgone => ?_⟩
    · exact h.replace_subset run.now stamp ((mem_rotateBackups hnodup hkeep stamp).1 hstamp).1
    · rw [length_rotateBackups hnodup hkeep, h.length_replace]
    · obtain ⟨hthere, hfew⟩ := (mem_rotateBackups hnodup hkeep a).1 ha
      by_cases hb' : b ∈ replaceArchive history.archives run.now
      · apply hagrees hready a hthere b hb' hfew
        by_contra hless
        exact hgone ((mem_rotateBackups hnodup hkeep b).2 ⟨hb', Nat.not_le.1 hless⟩)
      · rw [mem_replaceArchive, not_or] at hb'
        have hwritten := (mem_replaceArchive.1 hb).resolve_right hb'.2
        rcases mem_replaceArchive.1 hthere with hold | rfl
        · exact h.recent a hold b hwritten hb'.1
        · exact lt_of_le_of_ne (hpast b hwritten) fun heq => hb'.2 (moment_inj heq)

theorem MostRecent.now_mem (hkeep : 1 ≤ keep)
    (hpast : ∀ stamp ∈ history.written, stamp.moment ≤ run.now.moment)
    (hready : (run.sqlite && run.database && run.publicKey) = true)
    (h : MostRecent keep (history.after keep run)) :
    run.now ∈ (history.after keep run).archives := by
  by_contra hgone
  have hwritten : (history.after keep run).written = replaceArchive history.written run.now := by
    rw [(after_ready hready).2]
  have hnow : run.now ∈ (history.after keep run).written := by
    rw [hwritten]
    exact mem_replaceArchive.2 (.inr rfl)
  have hsome : (history.after keep run).archives ≠ [] := by
    intro hnil
    have hlength := h.length
    have hpos := List.length_pos_of_mem hnow
    rw [hnil, List.length_nil] at hlength
    omega
  obtain ⟨stamp, hstamp⟩ := List.exists_mem_of_ne_nil _ hsome
  have hnewer := h.recent stamp hstamp run.now hnow hgone
  have hmem := h.subset stamp hstamp
  rw [hwritten, mem_replaceArchive] at hmem
  rcases hmem with hold | rfl
  · exact absurd hnewer (Nat.not_lt.2 (hpast stamp hold))
  · exact absurd hnewer (Nat.lt_irrefl _)

theorem keepsNewest_iff (hkeep : 1 ≤ keep) (h : history.Sound keep)
    (hpast : ∀ stamp ∈ history.written, stamp.moment ≤ run.now.moment) :
    KeepsNewest keep history run ↔ OrderAgrees keep history run := by
  by_cases hready : (run.sqlite && run.database && run.publicKey) = true
  · rw [← mostRecent_iff hkeep h hpast hready, KeepsNewest, (after_ready hready).1]
    constructor
    · exact fun hnewest => (hnewest run.now rfl).2.2
    · rintro hrecent stamp hstamp
      cases hstamp
      exact ⟨rfl, hrecent.now_mem hkeep hpast hready, hrecent⟩
  · constructor
    · exact fun _ hdone => absurd hdone hready
    · exact fun _ stamp hstamp => absurd hstamp ((after_idle hready).1 stamp)

/-- After a run that keeps the newest archives the history is sound again. -/
theorem KeepsNewest.sound (h : history.Sound keep) (hnewest : KeepsNewest keep history run) :
    (history.after keep run).Sound keep := by
  by_cases hready : (run.sqlite && run.database && run.publicKey) = true
  · rw [KeepsNewest, (after_ready hready).1] at hnewest
    obtain ⟨-, -, hrecent⟩ := hnewest run.now rfl
    have hwritten : (history.after keep run).written.Nodup := by
      rw [(after_ready hready).2]
      exact nodup_replaceArchive h.written run.now
    refine ⟨hrecent.nodup, hwritten, hrecent.subset, hrecent.recent, ?_⟩
    rcases Nat.le_total (history.after keep run).written.length keep.toNat with hle | hge
    · left
      have hlength := hrecent.length
      rw [min_eq_left hle] at hlength
      have hperm := (List.subperm_of_subset hrecent.nodup hrecent.subset).perm_of_length_le
        hlength.ge
      exact fun stamp hstamp => hperm.mem_iff.2 hstamp
    · right
      rw [hrecent.length, min_eq_right hge]
  · rw [(after_idle hready).2]
    exact h

end Step

/-- In every sequence of runs at times that do not fall, each run keeps the newest archives just
where its order of the names agrees. -/
theorem eachRun_keepsNewest_iff {keep : Int} (hkeep : 1 ≤ keep) {archives : List ArchiveStamp}
    (hnodup : archives.Nodup) {runs : List BackupRun}
    (htimes : runs.Pairwise fun earlier later => earlier.now.moment ≤ later.now.moment)
    (hearlier : ∀ stamp ∈ archives, ∀ run ∈ runs, stamp.moment ≤ run.now.moment) :
    EachRun keep (KeepsNewest keep) ⟨archives, archives⟩ runs ↔
      EachRun keep (OrderAgrees keep) ⟨archives, archives⟩ runs := by
  have hruns : ∀ (history : BackupHistory), history.Sound keep →
      (∀ stamp ∈ history.written, ∀ run ∈ runs, stamp.moment ≤ run.now.moment) →
      (EachRun keep (KeepsNewest keep) history runs ↔
        EachRun keep (OrderAgrees keep) history runs) := by
    clear hearlier
    induction runs with
    | nil => exact fun _ _ _ => Iff.rfl
    | cons run runs ih =>
      intro history hsound hpast
      obtain ⟨hnext, hrest⟩ := List.pairwise_cons.1 htimes
      have hstep := keepsNewest_iff hkeep hsound
        fun stamp hstamp => hpast stamp hstamp run List.mem_cons_self
      have hafter : ∀ stamp ∈ (history.after keep run).written, ∀ later ∈ runs,
          stamp.moment ≤ later.now.moment := by
        intro stamp hstamp later hlater
        have hold : stamp ∈ history.written → stamp.moment ≤ later.now.moment := fun hmem =>
          hpast stamp hmem later (List.mem_cons_of_mem _ hlater)
        by_cases hready : (run.sqlite && run.database && run.publicKey) = true
        · rw [(after_ready hready).2, mem_replaceArchive] at hstamp
          rcases hstamp with hmem | rfl
          · exact hold hmem
          · exact hnext later hlater
        · rw [(after_idle hready).2] at hstamp
          exact hold hstamp
      constructor
      · rintro ⟨hnewest, hlater⟩
        exact ⟨hstep.1 hnewest, (ih hrest _ (hnewest.sound hsound) hafter).1 hlater⟩
      · rintro ⟨hagrees, hlater⟩
        have hnewest := hstep.2 hagrees
        exact ⟨hnewest, (ih hrest _ (hnewest.sound hsound) hafter).2 hlater⟩
  apply hruns
  · exact
      { nodup := hnodup
        written := hnodup
        subset := fun _ hstamp => hstamp
        recent := fun _ _ _ hb hgone => absurd hb hgone
        full := .inl fun _ hstamp => hstamp }
  · exact hearlier

def monthEnd : ArchiveStamp := ⟨2026, 1, 31, 4, 0, by decide, by decide, by decide, by decide,
  by decide⟩

def monthStart : ArchiveStamp := ⟨2026, 2, 1, 4, 0, by decide, by decide, by decide, by decide,
  by decide⟩

/-- On the first of a month the archive just written is deleted, and that of the day before is
kept. -/
theorem monthStart_deleted : monthEnd.moment < monthStart.moment ∧
    makeFullBackup 1 [monthEnd] ⟨monthStart, true, true, true⟩ =
      (.archive monthStart, [monthEnd]) ∧
    ¬ EachRun 1 (KeepsNewest 1) ⟨[monthEnd], [monthEnd]⟩ [⟨monthStart, true, true, true⟩] := by
  have hmake : makeFullBackup 1 [monthEnd] ⟨monthStart, true, true, true⟩ =
      (.archive monthStart, [monthEnd]) := by decide
  refine ⟨by decide, hmake, fun h => ?_⟩
  obtain ⟨-, hmem, -⟩ := h.1 monthStart (by rw [hmake])
  rw [BackupHistory.after, hmake, List.mem_singleton] at hmem
  revert hmem
  decide

/-- Three mornings at the end of January. -/
def lastDays : List ArchiveStamp :=
  [⟨2026, 1, 29, 4, 0, by decide, by decide, by decide, by decide, by decide⟩,
    ⟨2026, 1, 30, 4, 0, by decide, by decide, by decide, by decide, by decide⟩, monthEnd]

/-- Two are kept: the third archive takes the place of the oldest one. -/
theorem eachRun_keepsNewest_two :
    EachRun 2 (KeepsNewest 2) ⟨lastDays.take 1, lastDays.take 1⟩
        [⟨lastDays[1], true, true, true⟩, ⟨lastDays[2], true, true, true⟩] ∧
      makeFullBackup 2 (lastDays.take 2) ⟨lastDays[2], true, true, true⟩ =
        (.archive monthEnd, lastDays.drop 1) := by
  have hmake : makeFullBackup 2 (lastDays.take 1) ⟨lastDays[1], true, true, true⟩ =
      (.archive lastDays[1], lastDays.take 2) := by decide
  refine ⟨(eachRun_keepsNewest_iff (by decide) (by decide) (by decide) (by decide)).2
    ⟨fun _ => by decide, fun _ => ?_, trivial⟩, by decide⟩
  rw [BackupHistory.after, hmake]
  decide

end AegisVPN
