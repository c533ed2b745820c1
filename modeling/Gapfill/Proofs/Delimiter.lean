import Gapfill.Compiled
import Gapfill.Proofs.Pattern.SlashedPatterns

/-!
# The rule for slashes keeps what a pattern means

Before it is anchored each body gets a backslash before its slashes, so that the
pattern can stand between slashes. The rule does not look at what it changes: it
goes into sets, counts, names and comments, and into bodies that are no patterns.
It changes nothing that a reader of patterns sees. The anchored bodies, escaped or
not, are one text once all slashes are escaped (`slashed_anchored`), and the reader
reads from a text what it reads from it then.
-/

namespace Gapfill

open Pattern (Kept slashed slashed_cons)
open SpacingRule (escapeSlash escapeSlashes escapeSlashes_append)

/-! ## Texts that differ in escapes of slashes alone -/

/-- The texts become one when their slashes are escaped, wherever they stand. -/
def SameEscaped (x y : List Char) : Prop := ∀ b, escapeSlashes b x = escapeSlashes b y

namespace SameEscaped

variable {x y : List Char}

theorem refl (x : List Char) : SameEscaped x x := fun _ => rfl

theorem append (h : SameEscaped x y) (p : List Char) : SameEscaped (p ++ x) (p ++ y) := by
  intro b
  rw [escapeSlashes_append, escapeSlashes_append, h]

/-- Behind a kept character it does not matter what comes before. -/
theorem cons {k : Char} (hk : Kept k) (h : slashed x = slashed y) :
    SameEscaped (k :: x) (k :: y) := by
  intro b
  cases b with
  | false => rw [← slashed, ← slashed, slashed_cons hk, slashed_cons hk, h]
  | true => exact congrArg (k :: ·) h

end SameEscaped

/-- In front of any text, what the rule wrote is left as it is. -/
theorem escapeSlashes_escaped (b : Bool) (u v : List Char) :
    escapeSlashes b (escapeSlashes b u ++ v) = escapeSlashes b (u ++ v) := by
  fun_induction escapeSlashes b u with
  | case1 => rfl
  | case2 c u ih => exact congrArg (c :: ·) ih
  | case3 u ih => exact congrArg ('\\' :: '/' :: ·) ih
  | case4 c u hc ih =>
      rw [List.cons_append, List.cons_append, escapeSlashes, escapeSlashes, if_neg hc, if_neg hc,
        ih]

/-! ## Anchored bodies -/

/-- A body in the group that it stands in between the anchors. -/
def bodyGroup (body : List Char) : List Char := "(?:".toList ++ body ++ [')']

namespace SameEscaped

variable {x y : List Char}

theorem group (h : SameEscaped x y) (body : List Char) :
    SameEscaped (bodyGroup (escapeSlash.apply body) ++ x) (bodyGroup body ++ y) := by
  have hopen : ∀ u v : List Char, bodyGroup u ++ v =
      ['(', '?'] ++ ':' :: (u ++ (')' :: v)) := by
    intro u v
    simp [bodyGroup]
  rw [hopen, hopen]
  refine append (cons (by decide) ?_) _
  exact (escapeSlashes_escaped false body _).trans (((h.append [')']).append body) false)

theorem groups (h : SameEscaped x y) (separator : List Char) : ∀ bodies : List (List Char),
    SameEscaped (separator.intercalate ((bodies.map escapeSlash.apply).map bodyGroup) ++ x)
      (separator.intercalate (bodies.map bodyGroup) ++ y)
  | [] => h
  | [body] => by
      simpa [List.intercalate] using h.group body
  | body :: next :: bodies => by
      have ih := ((groups h separator (next :: bodies)).append separator).group body
      simpa [List.intercalate_cons_cons] using ih

end SameEscaped

theorem slashed_anchored (bodies : List (List Char)) (separator : String) :
    slashed (anchored (bodies.map escapeSlash.apply) separator) =
      slashed (anchored bodies separator) :=
  ((SameEscaped.refl ['$']).groups (quoted separator.toList) bodies).append ['^'] false

/-- The anchored text of bodies whose slashes are escaped is a pattern exactly if that of the bodies
is one, whatever the switches for case and dot, and denotes the same expression; so it is compiled
within the same limits, and accepts the same texts. To a body whose slashes are escaped the rule
does nothing more. -/
theorem escapeSlash_keeps_meaning (bodies : List (List Char)) (separator : String) :
    (∀ ignoreCase dotNewline : Bool,
      Pattern.parse ignoreCase dotNewline (anchored (bodies.map escapeSlash.apply) separator) =
        Pattern.parse ignoreCase dotNewline (anchored bodies separator))
    ∧ (∀ (options : Options) (limits : Limits),
      (Matcher.compile (anchored (bodies.map escapeSlash.apply) separator) options
        limits).toOption.map Matcher.accepts =
      (Matcher.compile (anchored bodies separator) options limits).toOption.map Matcher.accepts)
    ∧ ∀ body, escapeSlash.apply (escapeSlash.apply body) = escapeSlash.apply body := by
  have hparse : ∀ ignoreCase dotNewline : Bool,
      Pattern.parse ignoreCase dotNewline (anchored (bodies.map escapeSlash.apply) separator) =
        Pattern.parse ignoreCase dotNewline (anchored bodies separator) := by
    intro ignoreCase dotNewline
    rw [← Pattern.parse_slashed, slashed_anchored, Pattern.parse_slashed]
  refine ⟨hparse, fun options limits => ?_, fun body => ?_⟩
  · unfold Matcher.compile Pattern.compile
    rw [hparse]
    cases Pattern.parse options.ignoreCase options.dotNewline (anchored bodies separator) with
    | none => rfl
    | some regex =>
        dsimp only
        split <;> rfl
  · have htwice := escapeSlashes_escaped false body []
    rwa [List.append_nil, List.append_nil] at htwice

end Gapfill
