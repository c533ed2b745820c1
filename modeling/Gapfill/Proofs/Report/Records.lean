import Mathlib.Data.List.Nodup
import Gapfill.Proofs.Calendar.Texts
import Gapfill.Proofs.Json.Documents
import Gapfill.Proofs.Uuid
import Gapfill.Report.Saved

/-!
# Reports as JSON

The record of a report holds all of it: whatever has been written is read again, as long as the
time is one that there is (`GradeReport.ofJson?_toJson`). The text of the record
keeps strings, names and the whole numbers of 64 bits, but a float comes back as
the one that reading makes of its text (`GradeReport.rereadValue_toJson`). So a
report comes back as it was exactly if this is so for each of its floats
(`GradeReport.ofText?_text`, `GradeReport.mapFloats_eq_self_iff`).
-/

namespace Gapfill

/-! ## The floats of a report -/

def Outcome.mapFloats (f : Binary64 → Binary64) (outcome : Outcome) : Outcome :=
  { outcome with earned := f outcome.earned, most := f outcome.most }

def Attempt.mapFloats (f : Binary64 → Binary64) (attempt : Attempt) : Attempt :=
  { attempt with
    fraction := f attempt.fraction
    mark := f attempt.mark
    outcomes := attempt.outcomes.map (·.mapFloats f) }

def Aggregate.mapFloats (f : Binary64 → Binary64) (aggregate : Aggregate) : Aggregate :=
  { aggregate with meanFraction := f aggregate.meanFraction }

def QuestionSummary.mapFloats (f : Binary64 → Binary64) (question : QuestionSummary) :
    QuestionSummary :=
  { question with maxPoints := f question.maxPoints }

/-- The report with other floats, and all else as it is. -/
def GradeReport.mapFloats (f : Binary64 → Binary64) (report : GradeReport) : GradeReport :=
  { report with
    question := report.question.mapFloats f
    attempts := report.attempts.map (·.mapFloats f)
    aggregate := report.aggregate.mapFloats f }

def Outcome.floats (outcome : Outcome) : List Binary64 := [outcome.earned, outcome.most]

def Attempt.floats (attempt : Attempt) : List Binary64 :=
  attempt.fraction :: attempt.mark :: attempt.outcomes.flatMap Outcome.floats

/-- All floats of a report. -/
def GradeReport.floats (report : GradeReport) : List Binary64 :=
  report.question.maxPoints :: report.aggregate.meanFraction
    :: report.attempts.flatMap Attempt.floats

theorem map_eq_self_iff {α : Type} {f : α → α} {xs : List α} :
    xs.map f = xs ↔ ∀ x ∈ xs, f x = x := by
  have hinj := List.map_inj_left (l := xs) (f := f) (g := id)
  rwa [List.map_id] at hinj

section

variable {f : Binary64 → Binary64}

theorem Outcome.mapFloats_eq_self_iff (outcome : Outcome) :
    outcome.mapFloats f = outcome ↔ ∀ x ∈ outcome.floats, f x = x := by
  obtain ⟨gap, earned, most, subPattern, classification⟩ := outcome
  simp [mapFloats, floats]

theorem Attempt.mapFloats_eq_self_iff (attempt : Attempt) :
    attempt.mapFloats f = attempt ↔ ∀ x ∈ attempt.floats, f x = x := by
  obtain ⟨responseId, summary, fraction, mark, classification, outcomes⟩ := attempt
  simp only [mapFloats, floats, Attempt.mk.injEq, true_and, map_eq_self_iff,
    List.forall_mem_cons, Outcome.mapFloats_eq_self_iff, List.forall_mem_flatMap]

theorem GradeReport.mapFloats_eq_self_iff (report : GradeReport) :
    report.mapFloats f = report ↔ ∀ x ∈ report.floats, f x = x := by
  obtain ⟨stamp, ⟨id, name, flavor, fieldCount, maxPoints⟩, attempts,
    ⟨right, partly, wrong, meanFraction⟩⟩ := report
  simp only [mapFloats, floats, QuestionSummary.mapFloats, Aggregate.mapFloats,
    GradeReport.mk.injEq, QuestionSummary.mk.injEq, Aggregate.mk.injEq, true_and, map_eq_self_iff,
    List.forall_mem_cons, Attempt.mapFloats_eq_self_iff, List.forall_mem_flatMap]
  tauto

end

/-! ## Records that are read -/

namespace Json

/-- An object with the fields of a record and no others. -/
theorem record?_object {fields : List String} {members : List (String × Json)}
    (hnames : members.map (·.1) = fields) (hfields : fields.Nodup) :
    record? fields (.object members) = some members := by
  have honce : (fields.all fun field => timesNamed field members ≤ 1) = true := by
    refine List.all_eq_true.mpr fun field _ => decide_eq_true ?_
    have hcount : timesNamed field members = fields.count field := by
      rw [← hnames, List.count, List.countP_map]
      rfl
    rw [hcount]
    exact List.nodup_iff_count_le_one.mp hfields field
  exact if_pos honce

section

variable {α : Type} {name other : String} {value : Json} {members : List (String × Json)}
  {read : Json → Option α}

@[simp] theorem field?_cons_self : field? ((name, value) :: members) name read = read value := by
  rw [field?, List.lookup_cons, beq_self_eq_true]
  rfl

@[simp] theorem field?_cons_ne (h : name ≠ other) :
    field? ((other, value) :: members) name read = field? members name read := by
  rw [field?, field?, List.lookup_cons, beq_eq_false_iff_ne.mpr h]

@[simp] theorem nullableField?_cons_self :
    nullableField? ((name, value) :: members) name read = value.nullable? read := by
  rw [nullableField?, List.lookup_cons, beq_self_eq_true]

@[simp] theorem nullableField?_cons_ne (h : name ≠ other) :
    nullableField? ((other, value) :: members) name read = nullableField? members name read := by
  rw [nullableField?, nullableField?, List.lookup_cons, beq_eq_false_iff_ne.mpr h]

end

@[simp] theorem text?_string (text : String) : text? (.string text) = some text := rfl

@[simp] theorem float?_float (x : Binary64) : float? (.float x) = some x := rfl

@[simp] theorem nat?_integer (n : Nat) : nat? (.integer n) = some n := by
  rw [nat?, if_pos (Int.natCast_nonneg n), Int.toNat_natCast]

@[simp] theorem nullable?_ofNat? (n : Option Nat) : (Json.ofNat? n).nullable? nat? = some n := by
  cases n with
  | none => rfl
  | some n => exact congrArg (Option.map some) (nat?_integer n)

/-- Items are read as they are written. -/
theorem list?_array {α : Type} {write : α → Json} {read : Json → Option α} {xs : List α}
    (h : ∀ x ∈ xs, read (write x) = some x) : list? read (.array (xs.map write)) = some xs := by
  rw [list?]
  induction xs with
  | nil => rfl
  | cons x xs ih =>
      obtain ⟨hx, hxs⟩ := List.forall_mem_cons.mp h
      rw [List.map_cons, List.mapM_cons, hx, ih hxs]
      rfl

end Json

@[simp] theorem Classification.ofJson?_name (c : Classification) :
    ofJson? (.string c.name) = some c := by
  cases c <;> rfl

@[simp] theorem Outcome.ofJson?_toJson (outcome : Outcome) :
    ofJson? outcome.toJson = some outcome := by
  rw [ofJson?, toJson, Json.record?_object (by rfl) (by decide)]
  simp

@[simp] theorem Attempt.ofJson?_toJson (attempt : Attempt) :
    ofJson? attempt.toJson = some attempt := by
  rw [ofJson?, toJson, Json.record?_object (by rfl) (by decide)]
  simp [Json.list?_array]

@[simp] theorem Aggregate.ofJson?_toJson (aggregate : Aggregate) :
    ofJson? aggregate.toJson = some aggregate := by
  rw [ofJson?, toJson, Json.record?_object (by rfl) (by decide)]
  simp

@[simp] theorem QuestionSummary.ofJson?_toJson (question : QuestionSummary) :
    ofJson? question.toJson = some question := by
  rw [ofJson?, toJson, Json.record?_object (by rfl) (by decide)]
  simp

/-- A report is read from its record. -/
theorem GradeReport.ofJson?_toJson {report : GradeReport} (h : report.stamp.time.Valid) :
    ofJson? report.toJson = some report := by
  rw [ofJson?, toJson, Json.record?_object (by rfl) (by decide)]
  simp [Json.list?_array, Uuid.ofText?_text, Instant.ofText?_text h]

/-! ## Records that are written and read -/

namespace Json

theorem rereadValue_string (text : String) : rereadValue (.string text) = .string text := by
  rw [rereadValue]

theorem rereadValue_integer {n : Nat} (h : n ≤ maxCount) :
    rereadValue (.integer n) = .integer n := by
  have hnonneg : ¬ (n : Int) < 0 := Int.not_lt.mpr (Int.natCast_nonneg n)
  rw [rereadValue, Int.natAbs_natCast, decide_eq_false hnonneg, wholeNumber,
    ofDecimalDigits_decimalDigits, if_neg (Nat.not_lt.mpr h)]
  rfl

theorem rereadValue_ofNat? {n : Option Nat} (h : ∀ m ∈ n, m ≤ maxCount) :
    rereadValue (.ofNat? n) = .ofNat? n := by
  cases n with
  | none => rfl
  | some n => exact rereadValue_integer (h n rfl)

theorem rereadValue_float {x : Binary64} (h : x.isFinite = true) :
    rereadValue (.float x) = .float (reread x) := by
  rw [rereadValue, if_pos h]

theorem rereadValue_array {α : Type} {write : α → Json} {f : α → α} {xs : List α}
    (h : ∀ x ∈ xs, rereadValue (write x) = write (f x)) :
    rereadValue (.array (xs.map write)) = .array ((xs.map f).map write) := by
  rw [rereadValue]
  congr 1
  induction xs with
  | nil => rfl
  | cons x xs ih =>
      obtain ⟨hx, hxs⟩ := List.forall_mem_cons.mp h
      rw [List.map_cons, rereadItems, hx, ih hxs]
      rfl

end Json

open Json

/-- Its numbers have at most 64 bits. -/
structure Outcome.Storable (outcome : Outcome) : Prop where
  gap : ∀ n ∈ outcome.gap, n ≤ maxCount
  subPattern : ∀ n ∈ outcome.subPattern, n ≤ maxCount

/-- A report of an instant that there is, with numbers of at most 64 bits. -/
structure GradeReport.Storable (report : GradeReport) : Prop where
  time : report.stamp.time.Valid
  milliseconds : report.stamp.milliseconds ≤ maxCount
  fieldCount : report.question.fieldCount ≤ maxCount
  outcomes : ∀ attempt ∈ report.attempts, ∀ outcome ∈ attempt.outcomes, outcome.Storable
  right : report.aggregate.right ≤ maxCount
  partly : report.aggregate.partly ≤ maxCount
  wrong : report.aggregate.wrong ≤ maxCount

theorem Outcome.rereadValue_toJson {outcome : Outcome} (h : outcome.Storable)
    (hfinite : ∀ x ∈ outcome.floats, x.isFinite = true) :
    rereadValue outcome.toJson = (outcome.mapFloats reread).toJson := by
  simp only [floats, List.forall_mem_cons] at hfinite
  obtain ⟨hearned, hmost, -⟩ := hfinite
  rw [toJson, rereadValue]
  simp only [rereadMembers, rereadValue_string, rereadValue_ofNat? h.gap,
    rereadValue_ofNat? h.subPattern, rereadValue_float hearned, rereadValue_float hmost]
  rfl

theorem Attempt.rereadValue_toJson {attempt : Attempt}
    (h : ∀ outcome ∈ attempt.outcomes, outcome.Storable)
    (hfinite : ∀ x ∈ attempt.floats, x.isFinite = true) :
    rereadValue attempt.toJson = (attempt.mapFloats reread).toJson := by
  simp only [floats, List.forall_mem_cons, List.forall_mem_flatMap] at hfinite
  obtain ⟨hfraction, hmark, houtcomes⟩ := hfinite
  have hfields : rereadValue (.array (attempt.outcomes.map Outcome.toJson))
      = .array ((attempt.outcomes.map (·.mapFloats reread)).map Outcome.toJson) :=
    rereadValue_array fun outcome houtcome =>
      Outcome.rereadValue_toJson (h outcome houtcome) (houtcomes outcome houtcome)
  rw [toJson, rereadValue]
  simp only [rereadMembers, rereadValue_string, rereadValue_float hfraction,
    rereadValue_float hmark, hfields]
  rfl

/-- Of the text of a report its record is read, with the floats that are read of theirs. -/
theorem GradeReport.rereadValue_toJson {report : GradeReport} (h : report.Storable)
    (hfinite : ∀ x ∈ report.floats, x.isFinite = true) :
    rereadValue report.toJson = (report.mapFloats reread).toJson := by
  simp only [floats, List.forall_mem_cons, List.forall_mem_flatMap] at hfinite
  obtain ⟨hmax, hmean, hattempts⟩ := hfinite
  have hquestion : rereadValue report.question.toJson
      = (report.question.mapFloats reread).toJson := by
    rw [QuestionSummary.toJson, rereadValue]
    simp only [rereadMembers, rereadValue_string, rereadValue_integer h.fieldCount,
      rereadValue_float hmax]
    rfl
  have haggregate : rereadValue report.aggregate.toJson
      = (report.aggregate.mapFloats reread).toJson := by
    rw [Aggregate.toJson, rereadValue]
    simp only [rereadMembers, rereadValue_integer h.right, rereadValue_integer h.partly,
      rereadValue_integer h.wrong, rereadValue_float hmean]
    rfl
  have hlist : rereadValue (.array (report.attempts.map Attempt.toJson))
      = .array ((report.attempts.map (·.mapFloats reread)).map Attempt.toJson) :=
    rereadValue_array fun attempt hattempt =>
      Attempt.rereadValue_toJson (h.outcomes attempt hattempt) (hattempts attempt hattempt)
  rw [toJson, rereadValue]
  simp only [rereadMembers, rereadValue_string, rereadValue_integer h.milliseconds, hquestion,
    hlist, haggregate]
  rfl

/-- A report that is read from its text has the floats that are read of theirs, and is the same in
all else. -/
theorem GradeReport.ofText?_text {report : GradeReport} (h : report.Storable)
    (hfinite : ∀ x ∈ report.floats, x.isFinite = true) :
    ofText? report.text = some (report.mapFloats reread) := by
  rw [ofText?, text, parse?_pretty, rereadValue_toJson h hfinite, Option.bind_some]
  exact ofJson?_toJson h.time

end Gapfill
