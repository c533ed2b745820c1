import Mathlib.Data.List.Induction
import Gapfill.Proofs.Building

/-!
# What a validation report says

Three walks write into one report, and of two problems of an input the later one
stays: the gaps of the question text by themselves, then the answers one after
the other, then the gaps without an answer. What an input shows in the end is
read off without the order of the checks (`ofQuestion_contents`).

A report is read through `get?`, and every step of a walk is a recording
(`get?_record`). The answers do not write under the question text, so a gap
without an answer hides all that was wrong with the gaps by themselves.
-/

namespace Gapfill

namespace ValidationReport

/-! ## Recording -/

theorem get?_cons (field other : FormField) (d : Diagnostic) (report : ValidationReport) :
    get? ((field, d) :: report) other = if other = field then some d else report.get? other := by
  unfold get?
  rw [List.lookup_cons]
  by_cases h : other = field
  · simp [h]
  · simp [h, beq_false_of_ne h]

/-- Recording replaces what an input showed, and leaves the other inputs alone. -/
theorem get?_record (field other : FormField) (d : Diagnostic) : ∀ report : ValidationReport,
    (report.record field d).get? other = if other = field then some d else report.get? other
  | [] => get?_cons field other d []
  | (f, e) :: rest => by
      rw [record]
      split
      · exact get?_cons ..
      · split
        · rename_i heq
          subst heq
          rw [get?_cons, get?_cons]
          split <;> rfl
        · rename_i hne
          rw [get?_cons, get?_cons, get?_record field other d rest]
          by_cases h : other = field
          · rw [if_pos h, if_pos h, if_neg (h ▸ hne)]
          · rw [if_neg h, if_neg h]

/-- Of several problems of an input the last one stays. -/
theorem get?_foldl_record {α : Type} (field other : FormField) (problem : α → Diagnostic) :
    ∀ (problems : List α) (report : ValidationReport),
      (problems.foldl (fun report a => report.record field (problem a)) report).get? other =
        if other = field then (problems.getLast?.map problem).or (report.get? other)
        else report.get? other
  | [], report => by simp
  | a :: problems, report => by
      rw [List.foldl_cons, get?_foldl_record field other problem problems, get?_record,
        List.getLast?_cons]
      split
      · cases problems.getLast? <;> rfl
      · rfl

theorem eq_nil_iff (report : ValidationReport) :
    report = [] ↔ ∀ field, report.get? field = none := by
  cases report with
  | nil => simp [get?]
  | cons entry rest =>
      obtain ⟨field, d⟩ := entry
      refine ⟨fun h => absurd h (List.cons_ne_nil _ _), fun h => ?_⟩
      have := h field
      rw [get?_cons, if_pos rfl] at this
      exact absurd this (Option.some_ne_none _)

/-! ## One problem for each input -/

/-- The inputs come in order, and none comes twice. -/
def Ordered (report : ValidationReport) : Prop :=
  report.Pairwise fun entry entry' => entry.1.before entry'.1 = true

theorem FormField.before_trans {a b c : FormField} (h : a.before b = true)
    (h' : b.before c = true) : a.before c = true := by
  cases a <;> cases b <;> cases c <;> simp_all [FormField.before]
  omega

theorem FormField.before_of_not {a b : FormField} (h : ¬ a.before b = true) (hne : a ≠ b) :
    b.before a = true := by
  cases a <;> cases b <;> simp_all [FormField.before]
  omega

theorem mem_record {field : FormField} {d : Diagnostic} : ∀ {report : ValidationReport}
    {entry : FormField × Diagnostic}, entry ∈ report.record field d →
      entry = (field, d) ∨ entry ∈ report
  | [], entry, h => Or.inl (List.mem_singleton.mp h)
  | (f, e) :: rest, entry, h => by
      rw [record] at h
      split at h
      · exact List.mem_cons.mp h
      · split at h
        · exact (List.mem_cons.mp h).imp_right (List.mem_cons_of_mem _)
        · rcases List.mem_cons.mp h with rfl | h
          · exact Or.inr List.mem_cons_self
          · exact (mem_record h).imp_right (List.mem_cons_of_mem _)

theorem Ordered.record {field : FormField} {d : Diagnostic} : ∀ {report : ValidationReport},
    report.Ordered → (report.record field d).Ordered
  | [], _ => List.pairwise_singleton _ _
  | (f, e) :: rest, h => by
      obtain ⟨hfirst, hrest⟩ := List.pairwise_cons.mp h
      rw [ValidationReport.record]
      split
      · rename_i hbefore
        exact List.pairwise_cons.mpr ⟨List.forall_mem_cons.mpr
          ⟨hbefore, fun entry hentry => FormField.before_trans hbefore (hfirst entry hentry)⟩, h⟩
      · rename_i hbefore
        split
        · rename_i heq
          exact List.pairwise_cons.mpr ⟨heq ▸ hfirst, hrest⟩
        · rename_i hne
          refine List.pairwise_cons.mpr ⟨fun entry hentry => ?_, Ordered.record hrest⟩
          rcases mem_record hentry with rfl | hentry
          · exact FormField.before_of_not hbefore hne
          · exact hfirst entry hentry

theorem Ordered.checkField {flavor : Flavor} {text : String} {field : FormField}
    {report : ValidationReport} (h : report.Ordered) :
    (checkField flavor text field report).Ordered := by
  unfold ValidationReport.checkField
  split
  · exact h
  · exact List.foldlRecOn _ _ h fun _ h _ _ => h.record

theorem Ordered.checkRepeats : ∀ {gaps seen : List Nat} {report : ValidationReport},
    report.Ordered → (checkRepeats seen gaps report).Ordered
  | [], _, _, h => h
  | gap :: rest, seen, report, h => by
      rw [ValidationReport.checkRepeats]
      refine Ordered.checkRepeats ?_
      split
      · exact h.record
      · exact h

theorem Ordered.checkClozeAnswers {gaps : List Nat} : ∀ {texts : List String} {index : Nat}
    {report : ValidationReport}, report.Ordered →
      (checkClozeAnswers gaps index texts report).Ordered
  | [], _, _, h => h
  | text :: rest, index, report, h => by
      rw [ValidationReport.checkClozeAnswers]
      refine Ordered.checkClozeAnswers ?_
      split
      · exact h
      · split
        · exact h.checkField
        · exact h.record

theorem Ordered.checkSingleAnswers : ∀ {texts : List String} {index : Nat}
    {report : ValidationReport}, report.Ordered → (checkSingleAnswers index texts report).Ordered
  | [], _, _, h => h
  | text :: rest, index, report, h => by
      rw [ValidationReport.checkSingleAnswers]
      refine Ordered.checkSingleAnswers ?_
      split
      · exact h
      · exact h.checkField

theorem ofQuestion_ordered (flavor : Flavor) (text : String) (answers : List String) :
    (ofQuestion flavor text answers).Ordered := by
  have hnil : Ordered [] := List.Pairwise.nil
  cases flavor with
  | single => exact hnil.checkSingleAnswers
  | cloze =>
      have hgaps : (checkGaps (gapReferences text) []).Ordered := by
        unfold checkGaps
        dsimp only
        split
        · exact hnil.checkRepeats.record
        · exact hnil.checkRepeats
      exact List.foldlRecOn _ _ hgaps.checkClozeAnswers fun _ h _ _ => h.record

/-! ## Answers -/

/-- What the walk over the answers leaves at an input, if the answer at an index shows what `shows`
says. The first answer has the index `index`. -/
def answersShow (shows : Nat → String → Option Diagnostic) :
    Nat → List String → FormField → Option Diagnostic
  | _, [], _ => none
  | index, text :: rest, other =>
    (answersShow shows (index + 1) rest other).or
      (if other = .answer index then shows index text else none)

theorem answersShow_questionText (shows : Nat → String → Option Diagnostic) :
    ∀ (index : Nat) (texts : List String), answersShow shows index texts .questionText = none
  | _, [] => rfl
  | index, text :: rest => by
      rw [answersShow, answersShow_questionText shows (index + 1) rest, if_neg (by simp)]
      rfl

theorem answersShow_earlier (shows : Nat → String → Option Diagnostic) :
    ∀ {index i : Nat} (texts : List String), i < index →
      answersShow shows index texts (.answer i) = none
  | _, _, [], _ => rfl
  | index, i, text :: rest, h => by
      have hne : FormField.answer i ≠ .answer index := fun heq =>
        Nat.ne_of_lt h (FormField.answer.inj heq)
      rw [answersShow, answersShow_earlier shows rest (Nat.lt_succ_of_lt h), if_neg hne]
      rfl

theorem answersShow_answer (shows : Nat → String → Option Diagnostic) :
    ∀ (index k : Nat) (texts : List String),
      answersShow shows index texts (.answer (index + k)) =
        texts[k]?.bind (shows (index + k))
  | _, _, [] => rfl
  | index, 0, text :: rest => by
      rw [Nat.add_zero, answersShow, answersShow_earlier shows rest (Nat.lt_succ_self index),
        if_pos rfl]
      rfl
  | index, k + 1, text :: rest => by
      have hne : FormField.answer (index + (k + 1)) ≠ .answer index := fun heq => by
        have := FormField.answer.inj heq
        omega
      have hk : index + (k + 1) = index + 1 + k := by omega
      rw [answersShow, if_neg hne, Option.or_none, hk, answersShow_answer shows (index + 1) k rest]
      rfl

/-- What is wrong with the text of a field: the last of its problems. -/
def refusal? (flavor : Flavor) (text : String) : Option Diagnostic :=
  match Field.parse flavor text with
  | .ok _ => none
  | .error diagnostics => diagnostics.getLast?

/-- What an answer of a single question shows. -/
def singleShows (text : String) : Option Diagnostic :=
  if text.isEmpty then none else refusal? .single text

/-- What the answer at an index of a cloze question shows, if its text marks these gaps. -/
def clozeShows (gaps : List Nat) (index : Nat) (text : String) : Option Diagnostic :=
  if text.isEmpty then none
  else if index + 1 ∈ gaps then refusal? .cloze text
  else some ⟨.noSuchGap (index + 1), none⟩

theorem get?_checkField (flavor : Flavor) (text : String) (field other : FormField)
    (report : ValidationReport) :
    (checkField flavor text field report).get? other =
      (if other = field then refusal? flavor text else none).or (report.get? other) := by
  unfold checkField refusal?
  cases Field.parse flavor text with
  | ok parsed => simp
  | error diagnostics =>
      dsimp only
      rw [get?_foldl_record field other (fun d => d)]
      by_cases h : other = field <;> simp [h]

theorem get?_checkClozeAnswers {gaps : List Nat} (other : FormField) :
    ∀ (index : Nat) (texts : List String) (report : ValidationReport),
      (checkClozeAnswers gaps index texts report).get? other =
        (answersShow (clozeShows gaps) index texts other).or (report.get? other)
  | _, [], report => rfl
  | index, text :: rest, report => by
      rw [checkClozeAnswers, get?_checkClozeAnswers other (index + 1) rest, answersShow,
        Option.or_assoc]
      congr 1
      unfold clozeShows
      split
      · simp
      · split
        · rename_i hgap
          rw [get?_checkField, if_pos (List.contains_iff_mem.mp hgap)]
        · rename_i hgap
          rw [if_neg (mt List.contains_iff_mem.mpr hgap), recordProblem, get?_record]
          split <;> rfl

theorem get?_checkSingleAnswers (other : FormField) :
    ∀ (index : Nat) (texts : List String) (report : ValidationReport),
      (checkSingleAnswers index texts report).get? other =
        (answersShow (fun _ => singleShows) index texts other).or (report.get? other)
  | _, [], report => rfl
  | index, text :: rest, report => by
      rw [checkSingleAnswers, get?_checkSingleAnswers other (index + 1) rest, answersShow,
        Option.or_assoc]
      congr 1
      unfold singleShows
      split
      · simp
      · rw [get?_checkField]

/-! ## Gaps -/

/-- There is an answer for the gap, which is not empty. The first answer is for gap 1. -/
def HasAnswer (answers : List String) (gap : Nat) : Prop :=
  ∃ index text, answers[index]? = some text ∧ text.isEmpty = false ∧ gap = index + 1

theorem isAnswered_iff {answers : List String} {gap : Nat} :
    isAnswered answers gap = true ↔ HasAnswer answers gap := by
  unfold isAnswered HasAnswer
  cases gap with
  | zero => simp
  | succ index =>
      simp only [Nat.add_sub_cancel, Option.any_eq_true, Bool.and_eq_true, bne_iff_ne,
        Bool.not_eq_true']
      constructor
      · rintro ⟨-, text, htext, hne⟩
        exact ⟨index, text, htext, hne, rfl⟩
      · rintro ⟨index', text, htext, hne, hindex⟩
        obtain rfl := Nat.succ.inj hindex
        exact ⟨Nat.succ_ne_zero _, text, htext, hne⟩

theorem mem_openGaps {gaps : List Nat} {answers : List String} {gap : Nat} :
    gap ∈ openGaps gaps answers ↔ gap ∈ gaps ∧ ¬ HasAnswer answers gap := by
  simp [openGaps, ← isAnswered_iff]

theorem openGaps_ordered (gaps : List Nat) (answers : List String) :
    (openGaps gaps answers).Pairwise (· ≤ ·) := by
  have hsorted : (openGaps gaps answers).Pairwise fun a b => decide (a ≤ b) = true :=
    List.pairwise_mergeSort (fun a b c => by simpa using Nat.le_trans)
      (fun a b => by simpa using Nat.le_total a b) _
  simpa only [decide_eq_true_eq] using hsorted

theorem le_of_getLast?_openGaps {gaps : List Nat} {answers : List String} {gap : Nat}
    (h : (openGaps gaps answers).getLast? = some gap) :
    ∀ other ∈ openGaps gaps answers, other ≤ gap := by
  have hordered := openGaps_ordered gaps answers
  obtain ⟨smaller, hlist⟩ := List.getLast?_eq_some_iff.mp h
  rw [hlist] at hordered ⊢
  obtain ⟨-, -, hlast⟩ := List.pairwise_append.mp hordered
  exact List.forall_mem_append.mpr ⟨fun other hother => hlast other hother gap (by simp), by simp⟩

/-- The last open gap is the greatest gap without an answer. -/
theorem getLast?_openGaps_eq_some_iff {gaps : List Nat} {answers : List String} {gap : Nat} :
    (openGaps gaps answers).getLast? = some gap ↔
      gap ∈ gaps ∧ ¬ HasAnswer answers gap
        ∧ ∀ other ∈ gaps, ¬ HasAnswer answers other → other ≤ gap := by
  constructor
  · intro hlast
    obtain ⟨hgap, hopen⟩ := mem_openGaps.mp (List.mem_of_getLast? hlast)
    exact ⟨hgap, hopen, fun other hother hopen' =>
      le_of_getLast?_openGaps hlast other (mem_openGaps.mpr ⟨hother, hopen'⟩)⟩
  · rintro ⟨hgap, hopen, hgreatest⟩
    have hmem := mem_openGaps.mpr ⟨hgap, hopen⟩
    have hlast := List.getLast?_eq_some_getLast (List.ne_nil_of_mem hmem)
    obtain ⟨hgap', hopen'⟩ := mem_openGaps.mp (List.mem_of_getLast? hlast)
    have hle := le_of_getLast?_openGaps hlast gap hmem
    rw [hlast, Nat.le_antisymm (hgreatest _ hgap' hopen') hle]

theorem getLast?_openGaps_eq_none_iff {gaps : List Nat} {answers : List String} :
    (openGaps gaps answers).getLast? = none ↔ ∀ gap ∈ gaps, HasAnswer answers gap := by
  rw [List.getLast?_eq_none_iff, List.eq_nil_iff_forall_not_mem]
  simp only [mem_openGaps, not_and, not_not]

/-- The gap is marked once more behind a first mark, and behind that every mark is a first one. -/
def LastRepeat (gaps : List Nat) (gap : Nat) : Prop :=
  ∃ before behind, gaps = before ++ gap :: behind ∧ gap ∈ before
    ∧ (gap :: behind).Nodup ∧ ∀ other ∈ behind, other ∉ before

theorem lastRepeat_append_of_mem {gaps : List Nat} {last gap : Nat} (h : last ∈ gaps) :
    LastRepeat (gaps ++ [last]) gap ↔ gap = last := by
  constructor
  · rintro ⟨before, behind, heq, -, hnodup, hnew⟩
    rcases List.eq_nil_or_concat behind with rfl | ⟨behind, other, rfl⟩
    · exact (List.cons.inj (List.append_inj' heq rfl).2).1.symm
    · rw [List.concat_eq_append, ← List.cons_append, ← List.append_assoc] at heq
      obtain ⟨rfl, hlast⟩ := List.append_inj' heq rfl
      obtain rfl := (List.cons.inj hlast).1
      rw [List.concat_eq_append, ← List.cons_append] at hnodup
      rw [List.concat_eq_append] at hnew
      rcases List.mem_append.mp h with hbefore | hbehind
      · exact absurd hbefore (hnew last (by simp))
      · exact absurd rfl ((List.nodup_append.mp hnodup).2.2 last hbehind last (by simp))
  · rintro rfl
    exact ⟨gaps, [], rfl, h, by simp, fun other hother => by simp at hother⟩

theorem lastRepeat_append_of_notMem {gaps : List Nat} {last gap : Nat} (h : last ∉ gaps) :
    LastRepeat (gaps ++ [last]) gap ↔ LastRepeat gaps gap := by
  constructor
  · rintro ⟨before, behind, heq, hmem, hnodup, hnew⟩
    rcases List.eq_nil_or_concat behind with rfl | ⟨behind, other, rfl⟩
    · obtain ⟨rfl, hlast⟩ := List.append_inj' heq rfl
      exact absurd ((List.cons.inj hlast).1 ▸ hmem) h
    · rw [List.concat_eq_append, ← List.cons_append, ← List.append_assoc] at heq
      rw [List.concat_eq_append, ← List.cons_append] at hnodup
      rw [List.concat_eq_append] at hnew
      exact ⟨before, behind, (List.append_inj' heq rfl).1, hmem,
        (List.nodup_append.mp hnodup).1, fun other hother => hnew other (by simp [hother])⟩
  · rintro ⟨before, behind, rfl, hmem, hnodup, hnew⟩
    obtain ⟨hbefore, hbehind⟩ := not_or.mp (mt List.mem_append.mpr h)
    refine ⟨before, behind ++ [last], by simp, hmem, ?_, ?_⟩
    · rw [← List.cons_append]
      refine List.nodup_append.mpr ⟨hnodup, by simp, ?_⟩
      rintro other hother _ hlast rfl
      exact hbehind (List.mem_singleton.mp hlast ▸ hother)
    · exact List.forall_mem_append.mpr ⟨hnew, List.forall_mem_singleton.mpr hbefore⟩

theorem nodup_iff_not_lastRepeat (gaps : List Nat) :
    gaps.Nodup ↔ ∀ gap, ¬ LastRepeat gaps gap := by
  induction gaps using List.reverseRecOn with
  | nil => simp [LastRepeat]
  | append_singleton gaps last ih =>
      have hnodup : (gaps ++ [last]).Nodup ↔ gaps.Nodup ∧ last ∉ gaps := by
        rw [List.nodup_append]
        constructor
        · rintro ⟨hgaps, -, hne⟩
          exact ⟨hgaps, fun hmem => hne last hmem last (by simp) rfl⟩
        · rintro ⟨hgaps, hnew⟩
          refine ⟨hgaps, by simp, ?_⟩
          rintro gap hgap _ hlast rfl
          exact hnew (List.mem_singleton.mp hlast ▸ hgap)
      by_cases h : last ∈ gaps
      · simp [hnodup, lastRepeat_append_of_mem h, h]
      · simp [hnodup, lastRepeat_append_of_notMem h, h, ih]

theorem checkRepeats_append (last : Nat) : ∀ (gaps seen : List Nat) (report : ValidationReport),
    checkRepeats seen (gaps ++ [last]) report =
      if last ∈ gaps ∨ last ∈ seen then
        (checkRepeats seen gaps report).recordProblem .questionText (.duplicatedGap last)
      else checkRepeats seen gaps report
  | [], seen, report => by simp [checkRepeats]
  | gap :: gaps, seen, report => by
      have hseen : (last ∈ gaps ∨ last ∈ gap :: seen) ↔ (last ∈ gap :: gaps ∨ last ∈ seen) := by
        simp only [List.mem_cons]
        rw [← or_assoc, or_comm (b := last = gap)]
      rw [List.cons_append, checkRepeats, checkRepeats_append last gaps, checkRepeats]
      simp only [hseen]

/-- The last repetition of a gap stays. -/
theorem get?_checkRepeats (gaps : List Nat) (d : Diagnostic) :
    (checkRepeats [] gaps []).get? .questionText = some d ↔
      ∃ gap, d = ⟨.duplicatedGap gap, none⟩ ∧ LastRepeat gaps gap := by
  induction gaps using List.reverseRecOn with
  | nil => simp [checkRepeats, get?, LastRepeat]
  | append_singleton gaps last ih =>
      rw [checkRepeats_append]
      by_cases h : last ∈ gaps
      · rw [if_pos (Or.inl h), recordProblem, get?_record, if_pos rfl]
        simp [lastRepeat_append_of_mem h, eq_comm]
      · rw [if_neg (by simpa using h), ih]
        simp [lastRepeat_append_of_notMem h]

theorem get?_checkRepeats_answer (index : Nat) : ∀ (gaps seen : List Nat)
    (report : ValidationReport),
    (checkRepeats seen gaps report).get? (.answer index) = report.get? (.answer index)
  | [], _, _ => rfl
  | gap :: gaps, seen, report => by
      rw [checkRepeats, get?_checkRepeats_answer index gaps]
      split
      · rw [recordProblem, get?_record, if_neg (by simp)]
      · rfl

/-! ## Whole reports -/

/-- What is wrong with a question text that marks these gaps, where these answers are given. -/
inductive TextProblem (gaps : List Nat) (answers : List String) : Problem → Prop
  /-- It is the greatest gap without an answer. -/
  | gapNotDefined {gap : Nat} : gap ∈ gaps → ¬ HasAnswer answers gap →
      (∀ other ∈ gaps, ¬ HasAnswer answers other → other ≤ gap) →
      TextProblem gaps answers (.gapNotDefined gap)
  | noGaps : gaps = [] → TextProblem gaps answers .noGaps
  /-- Every gap has an answer, and this one is the last to be marked again. -/
  | duplicatedGap {gap : Nat} : (∀ other ∈ gaps, HasAnswer answers other) → LastRepeat gaps gap →
      TextProblem gaps answers (.duplicatedGap gap)

theorem get?_checkGaps (gaps : List Nat) (d : Diagnostic) :
    (checkGaps gaps []).get? .questionText = some d ↔
      (gaps = [] ∧ d = ⟨.noGaps, none⟩)
        ∨ ∃ gap, d = ⟨.duplicatedGap gap, none⟩ ∧ LastRepeat gaps gap := by
  unfold checkGaps
  dsimp only
  cases gaps with
  | nil => simp [checkRepeats, recordProblem, get?_record, LastRepeat, eq_comm]
  | cons gap gaps => simp [get?_checkRepeats]

theorem get?_questionText_cloze (text : String) (answers : List String) (d : Diagnostic) :
    (ofQuestion .cloze text answers).get? .questionText = some d ↔
      d.offset = none ∧ TextProblem (gapReferences text) answers d.problem := by
  unfold ofQuestion
  dsimp only
  generalize gapReferences text = gaps
  unfold recordProblem
  rw [get?_foldl_record, if_pos rfl, get?_checkClozeAnswers, answersShow_questionText,
    Option.none_or]
  cases hlast : (openGaps gaps answers).getLast? with
  | some gap =>
      obtain ⟨hgap, hopen, hgreatest⟩ := getLast?_openGaps_eq_some_iff.mp hlast
      simp only [Option.map_some, Option.some_or, Option.some_inj]
      constructor
      · rintro rfl
        exact ⟨rfl, .gapNotDefined hgap hopen hgreatest⟩
      · obtain ⟨problem, offset⟩ := d
        rintro ⟨rfl, hproblem⟩
        cases hproblem with
        | gapNotDefined hgap' hopen' hgreatest' =>
            have hlast' := getLast?_openGaps_eq_some_iff.mpr ⟨hgap', hopen', hgreatest'⟩
            rw [Option.some.inj (hlast.symm.trans hlast')]
        | noGaps hnil => exact absurd (hnil ▸ hgap) List.not_mem_nil
        | duplicatedGap hanswered => exact absurd (hanswered gap hgap) hopen
  | none =>
      have hanswered := getLast?_openGaps_eq_none_iff.mp hlast
      rw [Option.map_none, Option.none_or, get?_checkGaps]
      constructor
      · rintro (⟨hnil, rfl⟩ | ⟨gap, rfl, hrepeat⟩)
        · exact ⟨rfl, .noGaps hnil⟩
        · exact ⟨rfl, .duplicatedGap hanswered hrepeat⟩
      · obtain ⟨problem, offset⟩ := d
        rintro ⟨rfl, hproblem⟩
        cases hproblem with
        | gapNotDefined hgap hopen => exact absurd (hanswered _ hgap) hopen
        | noGaps hnil => exact Or.inl ⟨hnil, rfl⟩
        | duplicatedGap _ hrepeat => exact Or.inr ⟨_, rfl, hrepeat⟩

theorem get?_answer_cloze (text : String) (answers : List String) (index : Nat) :
    (ofQuestion .cloze text answers).get? (.answer index) =
      answers[index]?.bind (clozeShows (gapReferences text) index) := by
  have hgaps : (checkGaps (gapReferences text) []).get? (.answer index) = none := by
    unfold checkGaps
    dsimp only
    split
    · rw [recordProblem, get?_record, if_neg (by simp), get?_checkRepeats_answer]
      rfl
    · exact get?_checkRepeats_answer index _ [] []
  have hanswers := answersShow_answer (clozeShows (gapReferences text)) 0 index answers
  rw [Nat.zero_add] at hanswers
  unfold ofQuestion recordProblem
  dsimp only
  rw [get?_foldl_record, if_neg (by simp), get?_checkClozeAnswers, hgaps, Option.or_none, hanswers]

theorem get?_single (text : String) (answers : List String) (other : FormField) :
    (ofQuestion .single text answers).get? other =
      answersShow (fun _ => singleShows) 0 answers other := by
  have hnil : get? [] other = none := rfl
  unfold ofQuestion
  dsimp only
  rw [get?_checkSingleAnswers, hnil, Option.or_none]

theorem refusal?_eq_none_iff {flavor : Flavor} {text : String} :
    refusal? flavor text = none ↔ ∃ field, Field.parse flavor text = .ok field := by
  unfold refusal?
  cases hparse : Field.parse flavor text with
  | ok field => simp
  | error diagnostics => simp [Field.parse_error_ne_nil hparse]

theorem clozeShows_eq_none_iff {gaps : List Nat} {index : Nat} {text : String} :
    clozeShows gaps index text = none ↔
      (text.isEmpty = false → index + 1 ∈ gaps) ∧ Readable .cloze text := by
  unfold clozeShows Readable
  by_cases hempty : text.isEmpty = true
  · simp [hempty]
  · by_cases hgap : index + 1 ∈ gaps
    · simp [hempty, hgap, refusal?_eq_none_iff]
    · simp [hempty, hgap]

theorem answers_clean_iff {gaps : List Nat} {answers : List String} :
    (∀ index, answers[index]?.bind (clozeShows gaps index) = none) ↔
      (∀ gap, HasAnswer answers gap → gap ∈ gaps) ∧ ∀ answer ∈ answers, Readable .cloze answer := by
  constructor
  · intro h
    have hentry : ∀ {index text}, answers[index]? = some text →
        clozeShows gaps index text = none := by
      intro index text htext
      simpa [htext] using h index
    refine ⟨?_, fun answer hanswer => ?_⟩
    · rintro _ ⟨index, text, htext, hne, rfl⟩
      exact (clozeShows_eq_none_iff.mp (hentry htext)).1 hne
    · obtain ⟨index, htext⟩ := List.mem_iff_getElem?.mp hanswer
      exact (clozeShows_eq_none_iff.mp (hentry htext)).2
  · rintro ⟨hgaps, hreadable⟩ index
    cases htext : answers[index]? with
    | none => rfl
    | some text =>
        exact clozeShows_eq_none_iff.mpr ⟨fun hne => hgaps _ ⟨index, text, htext, hne, rfl⟩,
          hreadable text (List.mem_of_getElem? htext)⟩

theorem text_clean_iff {gaps : List Nat} {answers : List String} :
    (∀ problem, ¬ TextProblem gaps answers problem) ↔
      gaps.Nodup ∧ gaps ≠ [] ∧ ∀ gap ∈ gaps, HasAnswer answers gap := by
  constructor
  · intro h
    have hanswered : ∀ gap ∈ gaps, HasAnswer answers gap := by
      cases hlast : (openGaps gaps answers).getLast? with
      | none => exact getLast?_openGaps_eq_none_iff.mp hlast
      | some gap =>
          obtain ⟨hgap, hopen, hgreatest⟩ := getLast?_openGaps_eq_some_iff.mp hlast
          exact absurd (.gapNotDefined hgap hopen hgreatest) (h _)
    exact ⟨(nodup_iff_not_lastRepeat gaps).mpr fun gap hrepeat =>
      h _ (.duplicatedGap hanswered hrepeat), fun hnil => h _ (.noGaps hnil), hanswered⟩
  · rintro ⟨hnodup, hne, hanswered⟩ _ hproblem
    cases hproblem with
    | gapNotDefined hgap hopen => exact hopen (hanswered _ hgap)
    | noGaps hnil => exact hne hnil
    | duplicatedGap _ hrepeat => exact (nodup_iff_not_lastRepeat gaps).mp hnodup _ hrepeat

/-- A cloze question is valid if its text marks each gap once, and just the gaps that have an
answer, at least one, and if every answer can be read. -/
theorem isValid_cloze_iff (text : String) (answers : List String) :
    (ofQuestion .cloze text answers).isValid = true ↔
      (gapReferences text).Nodup ∧ gapReferences text ≠ []
        ∧ (∀ gap, gap ∈ gapReferences text ↔ HasAnswer answers gap)
        ∧ ∀ answer ∈ answers, Readable .cloze answer := by
  have htext : (ofQuestion .cloze text answers).get? .questionText = none ↔
      ∀ problem, ¬ TextProblem (gapReferences text) answers problem := by
    rw [Option.eq_none_iff_forall_ne_some]
    simp only [ne_eq, get?_questionText_cloze]
    exact ⟨fun h problem hproblem => h ⟨problem, none⟩ ⟨rfl, hproblem⟩,
      fun h d hd => h d.problem hd.2⟩
  have hreport : (ofQuestion .cloze text answers).isValid = true ↔
      (ofQuestion .cloze text answers).get? .questionText = none
        ∧ ∀ index, (ofQuestion .cloze text answers).get? (.answer index) = none := by
    rw [isValid, List.isEmpty_iff, eq_nil_iff]
    refine ⟨fun h => ⟨h _, fun index => h _⟩, fun ⟨hquestion, hanswer⟩ field => ?_⟩
    cases field with
    | questionText => exact hquestion
    | answer index => exact hanswer index
  simp only [hreport, htext, get?_answer_cloze, text_clean_iff, answers_clean_iff]
  constructor
  · rintro ⟨⟨hnodup, hne, hanswered⟩, hgaps, hreadable⟩
    exact ⟨hnodup, hne, fun gap => ⟨hanswered gap, hgaps gap⟩, hreadable⟩
  · rintro ⟨hnodup, hne, hiff, hreadable⟩
    exact ⟨⟨hnodup, hne, fun gap => (hiff gap).mp⟩, fun gap => (hiff gap).mpr, hreadable⟩

/-- What a report shows at each input, and when it is empty. -/
theorem ofQuestion_contents (text : String) (answers : List String) :
    let gaps := gapReferences text
    let cloze := ofQuestion .cloze text answers
    let single := ofQuestion .single text answers
    (∀ d, cloze.get? .questionText = some d ↔ d.offset = none ∧ TextProblem gaps answers d.problem)
      ∧ (∀ index, cloze.get? (.answer index) = answers[index]?.bind (clozeShows gaps index))
      ∧ single.get? .questionText = none
      ∧ (∀ index, single.get? (.answer index) = answers[index]?.bind singleShows)
      ∧ cloze.Ordered ∧ single.Ordered
      ∧ (cloze.isValid = true ↔ gaps.Nodup ∧ gaps ≠ [] ∧ (∀ gap, gap ∈ gaps ↔ HasAnswer answers gap)
          ∧ ∀ answer ∈ answers, Readable .cloze answer) := by
  refine ⟨get?_questionText_cloze text answers, get?_answer_cloze text answers, ?_, fun index => ?_,
    ofQuestion_ordered .cloze text answers, ofQuestion_ordered .single text answers,
    isValid_cloze_iff text answers⟩
  · rw [get?_single, answersShow_questionText]
  · have hanswers := answersShow_answer (fun _ => singleShows) 0 index answers
    rw [Nat.zero_add] at hanswers
    rw [get?_single, hanswers]

-- The gap without an answer hides the repetition of the first gap.
example : ofQuestion .cloze "[[1]] [[1]] [[3]]" ["", "[[a]]//"] =
    [(.questionText, ⟨.gapNotDefined 3, none⟩), (.answer 1, ⟨.noSuchGap 2, none⟩)] := by
  cbv

end ValidationReport

end Gapfill
