import Mathlib.Data.List.Forall2
import Gapfill.Proofs.Pattern.Groups
import Gapfill.Proofs.Pattern.Words
import Gapfill.Proofs.WholeAnswer

/-!
# Bodies with a separator between them

The pattern for lines in order is pasted together: each body in a group of its
own, and between the groups the separator, quoted. What was pasted is read as a
whole, and it has to come apart again into the bodies.

It does so where the bodies leave no trace behind them (`ReadsApart`): the run over
the whole is put together from the runs over the bodies (`reads_joined`), and
so the whole is the sequence of what the bodies denote alone (`denotes_anchored`).
Without assertions, no body sees its neighbours, and an answer that is worth one is
made of a word of each (`joined_bodies_iff`). That each of the bodies compiles by
itself need not be assumed: alone it is less deep and less big than with the others.
-/

namespace Gapfill

namespace Pattern

variable {ignoreCase dotNewline : Bool} {separator : String} {between : List Piece}

/-! ## Reading -/

/-- The pieces for groups, with the pieces `between` from each to the next. -/
def joined (between wholes : List Piece) : List Piece :=
  between.intercalate (wholes.map fun p => [⟨p.regex, p.depth + 1⟩])

theorem joined_cons_cons (p q : Piece) (rest : List Piece) :
    joined between (p :: q :: rest) =
      ⟨p.regex, p.depth + 1⟩ :: (between ++ joined between (q :: rest)) := by
  simp [joined, List.intercalate_cons_cons]

/-- The piece for the end of the text. -/
def endPiece : Piece := .flat (.look .textEnd)

/-- The text is read as the pattern `whole`, without a trace that is left behind it. -/
def ReadsApart (ignoreCase dotNewline : Bool) (text : List Char) (whole : Piece) : Prop :=
  SetsNothing ignoreCase dotNewline text ∧ Denotes ignoreCase dotNewline text whole

/-- The run over the pattern from the group of a body on. -/
theorem reads_joined
    (hbetween : Spells (.initial ignoreCase dotNewline) (quoted separator.toList) between)
    {bodies : List (List Char)} {wholes : List Piece}
    (h : List.Forall₂ (ReadsApart ignoreCase dotNewline) bodies wholes) :
    ∀ {body : List Char} {whole : Piece} {r : Reader},
      ReadsApart ignoreCase dotNewline body whole →
      r.flags = .initial ignoreCase dotNewline → r.names = [] →
      Reader.Reads r ("(?:".toList ++ body ++ closing separator bodies)
        (r.addAll (joined between (whole :: wholes) ++ [endPiece])) [] := by
  have hskip : ∀ {r : Reader} (u : List Char), r.flags = .initial ignoreCase dotNewline →
      r.flags.skip u = u := by
    intro r u hflags
    rw [hflags]
    rfl
  induction h with
  | nil =>
      rintro body whole r ⟨hsets, hwhole⟩ hflags hnames
      have hgroup := hsets.reads_group hwhole hflags hnames ['$']
      have hstep : (r.push (.piece ⟨whole.regex, whole.depth + 1⟩)).step '$' [] =
          some (r.addAll (joined between [whole] ++ [endPiece]), []) := by
        obtain ⟨frame, outer, flags, names⟩ := r
        obtain rfl : flags = .initial ignoreCase dotNewline := hflags
        rfl
      rw [List.append_assoc]
      exact hgroup.trans (.single (hskip _ hflags) hstep)
  | cons hnext hrest ih =>
      rename_i next nextWhole bodies wholes
      rintro body whole r ⟨hsets, hwhole⟩ hflags hnames
      let rest := "(?:".toList ++ next ++ closing separator bodies
      have hgroup := hsets.reads_group hwhole hflags hnames (quoted separator.toList ++ rest)
      have hquoted := hbetween (r.push (.piece ⟨whole.regex, whole.depth + 1⟩))
        (quoted separator.toList ++ rest) rest hflags (by simp [rest]) rfl
      have hnexts := ih (r := (r.push (.piece ⟨whole.regex, whole.depth + 1⟩)).addAll between)
        hnext hflags hnames
      have hpieces : (r.push (.piece ⟨whole.regex, whole.depth + 1⟩)).addAll between =
          r.addAll (⟨whole.regex, whole.depth + 1⟩ :: between) := r.addAll_addAll [_] between
      rw [hpieces, Reader.addAll_addAll] at hnexts
      rw [joined_cons_cons, List.append_assoc]
      have hall := hgroup.trans (hquoted.trans (hpieces ▸ hnexts))
      simpa [closing, rest] using hall

/-- The piece for the start of the text. -/
def startPiece : Piece := .flat (.look .textStart)

/-- What the anchored pattern of some bodies denotes: what they denote, with the separator between
them. -/
theorem denotes_anchored
    (hbetween : Spells (.initial ignoreCase dotNewline) (quoted separator.toList) between)
    {bodies : List (List Char)} {wholes : List Piece} (hne : bodies ≠ [])
    (h : List.Forall₂ (ReadsApart ignoreCase dotNewline) bodies wholes) :
    Denotes ignoreCase dotNewline (anchored bodies separator)
      ((Reader.start ignoreCase dotNewline).addAll
        (startPiece :: (joined between wholes ++ [endPiece]))).frame.total := by
  cases h with
  | nil => exact absurd rfl hne
  | cons hbody hrest =>
      rename_i body whole bodies wholes
      have hrun := reads_joined hbetween hrest
        (r := (Reader.start ignoreCase dotNewline).addAll [startPiece]) hbody rfl rfl
      rw [Reader.addAll_addAll] at hrun
      rw [anchored_cons]
      exact ⟨_, [], .step rfl rfl hrun, rfl, rfl, rfl⟩

/-! ## Words -/

/-- Words of the bodies, with the separator between them. -/
theorem hasWords_joined {separator : List Char}
    (hbetween : HasWords (between.map (·.regex)) (· = separator)) :
    ∀ {wholes : List Piece}, wholes ≠ [] → (∀ p ∈ wholes, p.regex.LookFree) →
      HasWords ((joined between wholes).map (·.regex)) fun w => ∃ parts,
        List.Forall₂ (fun p part => p.regex.Matches none part none) wholes parts
          ∧ w = separator.intercalate parts
  | [], hne, _ => absurd rfl hne
  | [p], _, hfree => by
      have hp := hfree p (List.mem_singleton_self p)
      intro b w n
      refine (hp.hasWords b w n).trans ?_
      constructor
      · intro hw
        exact ⟨[w], .cons hw .nil, by simp [List.intercalate]⟩
      · rintro ⟨parts, hparts, rfl⟩
        obtain ⟨part, rest, hpart, hrest, rfl⟩ := List.forall₂_cons_left_iff.mp hparts
        obtain rfl := List.forall₂_nil_left_iff.mp hrest
        simpa [List.intercalate] using hpart
  | p :: q :: rest, _, hfree => by
      obtain ⟨hp, hrest⟩ := List.forall_mem_cons.mp hfree
      have ih := hasWords_joined hbetween (List.cons_ne_nil q rest) hrest
      intro b w n
      have hall := hp.hasWords.append (hbetween.append ih) b w n
      rw [joined_cons_cons, List.map_cons, List.map_append]
      refine hall.trans ?_
      constructor
      · rintro ⟨part, -, rfl, hpart, -, -, rfl, rfl, parts, hparts, rfl⟩
        refine ⟨part :: parts, .cons hpart hparts, ?_⟩
        obtain ⟨next, parts, -, -, rfl⟩ := List.forall₂_cons_left_iff.mp hparts
        simp [List.intercalate_cons_cons]
      · rintro ⟨words, hwords, rfl⟩
        obtain ⟨part, parts, hpart, hparts, rfl⟩ := List.forall₂_cons_left_iff.mp hwords
        refine ⟨part, separator ++ separator.intercalate parts, ?_, hpart, separator,
          separator.intercalate parts, rfl, rfl, parts, hparts, rfl⟩
        obtain ⟨next, parts, -, -, rfl⟩ := List.forall₂_cons_left_iff.mp hparts
        simp [List.intercalate_cons_cons]

/-- The separator is read as itself. -/
theorem exists_spells_quoted (dotNewline : Bool) (separator : List Char) :
    ∃ ps, Spells (.initial false dotNewline) (quoted separator) ps
      ∧ HasWords (ps.map (·.regex)) (· = separator) := by
  have hchar : ∀ c ∈ separator, ∃ ps, SpellsWords dotNewline
      (if isMeta c then ['\\', c] else [c]) ps (· = [c]) := by
    intro c _
    by_cases hmeta : isMeta c = true
    · obtain ⟨hsign, hless, hmore⟩ := isPunctuation_of_isMeta hmeta
      rw [if_pos hmeta]
      exact ⟨_, spellsWords_escape hsign hless hmore⟩
    · rw [if_neg hmeta]
      exact ⟨_, spellsWords_plain (isPlain_of_not_isMeta hmeta)⟩
  obtain ⟨ps, hps⟩ := exists_spellsWords_flatMap hchar
  refine ⟨ps, hps.spells, fun b w n => (hps.hasWords b w n).trans ?_⟩
  have hwords : ∀ {text : List Char} {words : List (List Char)},
      List.Forall₂ (fun c word => word = [c]) text words → words.flatten = text := by
    intro text words h
    induction h with
    | nil => rfl
    | cons hword _ ih => rw [List.flatten_cons, hword, ih]; rfl
  constructor
  · rintro ⟨words, h, rfl⟩
    exact hwords h
  · rintro rfl
    have h : List.Forall₂ (fun c word => word = [c]) w (w.map fun c => [c]) :=
      List.forall₂_map_right_iff.mpr (List.forall₂_same.mpr fun _ _ => rfl)
    exact ⟨_, h, (hwords h).symm⟩

/-! ## Compiling -/

theorem mem_joined {p : Piece} : ∀ {wholes : List Piece}, p ∈ wholes →
    ⟨p.regex, p.depth + 1⟩ ∈ joined between wholes
  | [q], h => by
      obtain rfl := List.mem_singleton.mp h
      simp [joined, List.intercalate]
  | q :: q' :: rest, h => by
      rw [joined_cons_cons]
      rcases List.mem_cons.mp h with rfl | h
      · exact List.mem_cons_self
      · exact List.mem_cons_of_mem _ (List.mem_append_right _ (mem_joined h))

/-- The expression for the bodies between the anchors. -/
def betweenAnchors (rs : List Regex) : Regex :=
  .catOf (.look .textStart :: (rs ++ [.look .textEnd]))

/-- A sequence takes the room of its parts. -/
theorem sum_size_le_size_catOf : ∀ rs : List Regex, (rs.map Regex.size).sum ≤ (Regex.catOf rs).size
  | [] => Nat.zero_le _
  | [r] => by simp [Regex.catOf]
  | r :: s :: rs => by
      have hcat : (Regex.catOf (r :: s :: rs)).size = r.size + (Regex.catOf (s :: rs)).size := rfl
      rw [hcat, List.map_cons, List.sum_cons]
      exact Nat.add_le_add_left (sum_size_le_size_catOf (s :: rs)) _

theorem size_betweenAnchors_le {r : Regex} {rs : List Regex} (h : r ∈ rs) :
    (betweenAnchors [r]).size ≤ (betweenAnchors rs).size := by
  have hsingle : (betweenAnchors [r]).size = 32 + (r.size + 32) := rfl
  have hsum := sum_size_le_size_catOf (.look .textStart :: (rs ++ [.look .textEnd]))
  have hmem : r.size ≤ (rs.map Regex.size).sum := by
    obtain ⟨before, behind, rfl⟩ := List.append_of_mem h
    rw [List.map_append, List.sum_append, List.map_cons, List.sum_cons]
    omega
  have hlook : ∀ l, (Regex.look l).size = 32 := fun _ => rfl
  rw [List.map_cons, List.map_append, List.sum_cons, List.sum_append, List.map_singleton,
    List.sum_singleton, hlook, hlook] at hsum
  rw [hsingle]
  unfold betweenAnchors
  omega

/-- Where the bodies compile together, each of them compiles by itself. -/
theorem compile_anchored
    (hbetween : Spells (.initial ignoreCase dotNewline) (quoted separator.toList) between)
    {bodies : List (List Char)} {wholes : List Piece} (hne : bodies ≠ [])
    (h : List.Forall₂ (ReadsApart ignoreCase dotNewline) bodies wholes) {limit : Nat}
    {regex : Regex} (hcompile : compile ignoreCase dotNewline limit (anchored bodies separator) =
      .ok regex) :
    regex = betweenAnchors ((joined between wholes).map (·.regex)) ∧ regex.Bounded
      ∧ List.Forall₂ (fun body whole => compile ignoreCase dotNewline limit
        (anchored [body] separator) = .ok (betweenAnchors [whole.regex])) bodies wholes := by
  have hregex : ∀ wholes', ((Reader.start ignoreCase dotNewline).addAll
      (startPiece :: (joined between wholes' ++ [endPiece]))).frame.total.regex =
        betweenAnchors ((joined between wholes').map (·.regex)) := by
    intro wholes'
    rw [regex_total_addAll, List.map_cons, List.map_append]
    rfl
  obtain ⟨whole, hwhole, hdepth, hsize, rfl⟩ := compile_eq_ok.mp hcompile
  obtain rfl := hwhole.unique (denotes_anchored hbetween hne h)
  obtain ⟨hlength, hzip⟩ := List.forall₂_iff_zip.mp h
  refine ⟨hregex wholes, hwhole.bounded,
    List.forall₂_iff_zip.mpr ⟨hlength, fun {body p} hmem => ?_⟩⟩
  have hgroup : ⟨p.regex, p.depth + 1⟩ ∈ joined between wholes :=
    mem_joined (List.of_mem_zip hmem).2
  have hone := denotes_anchored hbetween (List.cons_ne_nil body []) (.cons (hzip hmem) .nil)
  refine compile_eq_ok.mpr ⟨_, hone, ?_, ?_, hregex [p]⟩
  · have hle : ((Reader.start ignoreCase dotNewline).addAll
        (startPiece :: (joined between [p] ++ [endPiece]))).frame.total.depth ≤
          p.depth + 1 + 1 := by
      refine depth_total_addAll_le fun q hq => ?_
      simp only [joined, List.intercalate, List.map_singleton, List.intersperse_singleton,
        List.flatten_singleton, List.cons_append, List.nil_append, List.mem_cons,
        List.not_mem_nil, or_false] at hq
      rcases hq with rfl | rfl | rfl
      · exact Nat.zero_le _
      · exact Nat.le_refl _
      · exact Nat.zero_le _
    have hlt : p.depth + 1 < ((Reader.start ignoreCase dotNewline).addAll
        (startPiece :: (joined between wholes ++ [endPiece]))).frame.total.depth :=
      depth_lt_total_addAll (p := ⟨p.regex, p.depth + 1⟩)
        (List.mem_cons_of_mem _ (List.mem_append_left _ hgroup)) (by simp)
    exact Nat.le_trans hle (Nat.le_trans hlt hdepth)
  · rw [hregex [p]]
    rw [hregex wholes] at hsize
    exact Nat.le_trans (size_betweenAnchors_le (List.mem_map_of_mem hgroup)) hsize

end Pattern

/-! ## Answers -/

theorem Compiled.exists_compileEach {α β : Type} {options : Options} {limits : Limits}
    {pattern : α → List Char} {regex : β → Pattern.Regex} {xs : List α} {ys : List β}
    (h : List.Forall₂ (fun x y => Pattern.compile options.ignoreCase options.dotNewline
      limits.programSize (pattern x) = .ok (regex y)) xs ys) :
    ∃ ms, compileEach options limits (xs.map pattern) = .ok ms
      ∧ ms.map Matcher.regex = ys.map regex := by
  induction h with
  | nil => exact ⟨[], rfl, rfl⟩
  | @cons x y _ _ hx _ ih =>
      obtain ⟨ms, hms, hregexes⟩ := ih
      refine ⟨⟨String.ofList (pattern x), options.ignoreCase, options.dotNewline, regex y⟩ :: ms,
        ?_, ?_⟩
      · simp only [List.map_cons, compileEach, Matcher.compile, hx, hms]
      · rw [List.map_cons, List.map_cons, hregexes]

theorem exists_wholes {ignoreCase dotNewline : Bool} {bodies : List (List Char)}
    (h : ∀ body ∈ bodies, Pattern.SetsNothing ignoreCase dotNewline body
      ∧ ∃ regex, Pattern.parse ignoreCase dotNewline body = some regex ∧ regex.LookFree) :
    ∃ wholes : List Pattern.Piece,
      List.Forall₂ (Pattern.ReadsApart ignoreCase dotNewline) bodies wholes
        ∧ ∀ p ∈ wholes, p.regex.LookFree ∧ p.regex.Bounded := by
  induction bodies with
  | nil => exact ⟨[], .nil, by simp⟩
  | cons body bodies ih =>
      obtain ⟨⟨hsets, regex, hparse, hlook⟩, hrest⟩ := List.forall_mem_cons.mp h
      obtain ⟨wholes, hwholes, hfree⟩ := ih hrest
      obtain ⟨whole, hdenotes, -, rfl⟩ := Pattern.parse_iff.mp hparse
      exact ⟨whole :: wholes, .cons ⟨hsets, hdenotes⟩ hwholes,
        List.forall_mem_cons.mpr ⟨⟨hlook, hdenotes.bounded⟩, hfree⟩⟩

/-- What the matchers of single bodies accept. -/
theorem forall₂_accepts_iff {ms : List Matcher} {wholes : List Pattern.Piece}
    (hregexes : ms.map Matcher.regex = wholes.map fun p => Pattern.betweenAnchors [p.regex])
    (hbounded : ∀ p ∈ wholes, p.regex.Bounded) (parts : List (List Char)) :
    List.Forall₂ (fun m part => m.accepts part = true) ms parts ↔
      List.Forall₂ (fun p part => p.regex.Matches none part none) wholes parts := by
  have hsearches : List.Forall₂ (fun m part => m.accepts part = true) ms parts ↔
      List.Forall₂ (fun regex part => regex.search part = true) (ms.map Matcher.regex) parts :=
    (List.forall₂_map_left_iff
      (R := fun (regex : Pattern.Regex) part => regex.search part = true)).symm
  rw [hsearches, hregexes, List.forall₂_map_left_iff, List.forall₂_iff_zip, List.forall₂_iff_zip]
  refine and_congr_right fun _ => forall₂_congr fun p part => imp_congr_right fun hmem => ?_
  exact Pattern.Regex.search_anchored_iff (hbounded p (List.of_mem_zip hmem).1)

/-- The bodies of a sub-pattern as they are written where its options apply. -/
def SubPattern.bodies (sub : SubPattern) : List (List Char) :=
  sub.regexes.map fun body => SpacingRule.applyAll sub.options body.toList

/-- Bodies that are patterns by themselves, and neither set switches nor take names nor assert
anything about a place: where they compile together, each compiles by itself, and an answer is worth
one if and only if it is made of one word of each, with the separator between them. -/
theorem joined_bodies_iff {sub : SubPattern} {separator : String} {limits : Limits}
    {answer : List Char} {compiled : Compiled} (hordered : sub.options.anyOrder = false)
    (hcase : sub.options.ignoreCase = false) (hne : sub.regexes ≠ [])
    (hbodies : ∀ body ∈ sub.bodies,
      Pattern.SetsNothing sub.options.ignoreCase sub.options.dotNewline body
        ∧ ∃ regex, Pattern.parse sub.options.ignoreCase sub.options.dotNewline body = some regex
          ∧ regex.LookFree)
    (hcompiled : Compiled.ofSubPattern sub separator limits = .ok compiled)
    (hlength : answer.length ≤ limits.answerLength) (hanswer : normalize sub.options answer ≠ []) :
    ∃ ms, Compiled.compileEach sub.options limits
        (sub.bodies.map fun body => anchored [body] separator) = .ok ms
      ∧ ((compiled.evaluate limits answer).value = 1 ↔
        ∃ parts, List.Forall₂ (fun m part => m.accepts part = true) ms parts
          ∧ normalize sub.options answer = separator.toList.intercalate parts) := by
  have hcompile := Compiled.ofSubPattern_eq_compile hordered separator limits
  rw [hcompiled] at hcompile
  cases hregex : Pattern.compile sub.options.ignoreCase sub.options.dotNewline limits.programSize
      (sub.wholeText separator) with
  | error refusal => simp [hregex] at hcompile
  | ok regex =>
      have hnonempty : sub.bodies ≠ [] := by simpa [SubPattern.bodies] using hne
      obtain ⟨wholes, hwholes, hfree⟩ := exists_wholes hbodies
      obtain ⟨between, hbetween, hseparator⟩ :=
        Pattern.exists_spells_quoted sub.options.dotNewline separator.toList
      rw [← hcase] at hbetween
      obtain ⟨rfl, hbounded, hsingles⟩ := Pattern.compile_anchored hbetween hnonempty hwholes hregex
      have hne' : wholes ≠ [] := by
        rintro rfl
        exact hnonempty (List.forall₂_nil_right_iff.mp hwholes)
      obtain ⟨ms, hms, hregexes⟩ := Compiled.exists_compileEach hsingles
      refine ⟨ms, hms, ?_⟩
      have hsearch := (Pattern.Regex.search_between_iff _ hbounded).trans
        (Pattern.hasWords_joined hseparator hne' (fun p hp => (hfree p hp).1) none
          (normalize sub.options answer) none)
      rw [Compiled.evaluate_eq_one hordered hregex hcompiled hlength hanswer]
      simp only [forall₂_accepts_iff hregexes fun p hp => (hfree p hp).2]
      exact hsearch

/-- Two bodies, the first with alternatives; the separator will be a dot. -/
def SubPattern.twoBodies : SubPattern := ⟨["(?:a|b)+|c", "[.x]?"], 100, "", .default⟩

theorem twoBodies_plainGroups : ∀ body ∈ SubPattern.twoBodies.bodies, Pattern.PlainGroups body := by
  have hbodies : SubPattern.twoBodies.bodies = ["(?:a|b)+|c".toList, "[.x]?".toList] := by decide
  rw [hbodies]
  refine List.forall_mem_cons.mpr ⟨?_, List.forall_mem_singleton.mpr ?_⟩
  · intro v hv
    simp [List.suffix_cons_iff] at hv
    exact ⟨_, hv⟩
  · intro v hv
    simp [List.suffix_cons_iff] at hv

theorem joined_bodies_twoBodies :
    ∃ compiled, Compiled.ofSubPattern .twoBodies "." .default = .ok compiled
      ∧ (compiled.evaluate .default "ab.x".toList).value = 1
      ∧ ∃ ms, Compiled.compileEach .default .default
          (SubPattern.twoBodies.bodies.map fun body => anchored [body] ".") = .ok ms
        ∧ ∃ parts, List.Forall₂ (fun m part => m.accepts part = true) ms parts
          ∧ "ab.x".toList = ".".toList.intercalate parts := by
  have hbodies : ∀ body ∈ SubPattern.twoBodies.bodies, Pattern.SetsNothing false false body
      ∧ ∃ regex, Pattern.parse false false body = some regex ∧ regex.LookFree := by
    intro body hbody
    refine ⟨(twoBodies_plainGroups body hbody).setsNothing false false, ?_⟩
    have hparse : ∀ body ∈ SubPattern.twoBodies.bodies, ∃ regex ∈ [Pattern.Regex.alt (.rep (.alt
        (.chars (.single 'a')) (.chars (.single 'b'))) 1 none) (.chars (.single 'c')),
        .rep (.chars (.union (.single '.') (.single 'x'))) 0 (some 1)],
        Pattern.parse false false body = some regex := by decide +kernel
    obtain ⟨regex, hmem, hregex⟩ := hparse body hbody
    refine ⟨regex, hregex, ?_⟩
    simp only [List.mem_cons, List.not_mem_nil, or_false] at hmem
    rcases hmem with rfl | rfl <;> simp [Pattern.Regex.LookFree]
  have hok : (Compiled.ofSubPattern .twoBodies "." .default).toOption.isSome = true := by
    decide +kernel
  cases hcompiled : Compiled.ofSubPattern .twoBodies "." .default with
  | error e => simp [hcompiled, Except.toOption] at hok
  | ok compiled =>
      have hone : ((Compiled.ofStored .twoBodies "." .default).evaluate .default
          "ab.x".toList).value = 1 := by decide +kernel
      rw [Compiled.ofStored_of_ok hcompiled] at hone
      obtain ⟨ms, hms, hiff⟩ := @joined_bodies_iff .twoBodies "." .default "ab.x".toList compiled
        rfl rfl (by decide) hbodies hcompiled (by decide) (by decide)
      exact ⟨compiled, rfl, hone, ms, hms, hiff.mp hone⟩

end Gapfill
