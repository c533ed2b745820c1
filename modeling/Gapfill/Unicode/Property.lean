import Gapfill.Text.Blank
import Gapfill.Unicode.CategoryTable
import Gapfill.Unicode.Listed
import Gapfill.Unicode.Script

/-!
# Character properties

The general category of a character is looked up in the table; the other
properties are given, as in the standard, by categories and a few ranges more.
`Property.ofName?` finds a property by the name that a pattern may use for it.

Some properties are left out, and a pattern that asks for one of them is refused. These
are Age, Script_Extensions, Grapheme_Cluster_Break, Word_Break and Sentence_Break, and of
the properties that are simply true or false of a character Grapheme_Base,
Grapheme_Extend, Prepended_Concatenation_Mark, Modifier_Combining_Mark,
IDS_Unary_Operator, ID_Compat_Math_Start, ID_Compat_Math_Continue,
Changes_When_Lowercased, Changes_When_Uppercased, Changes_When_Titlecased,
Changes_When_Casefolded and Changes_When_Casemapped.
-/

namespace Gapfill.Unicode

/-- Whether a code point lies in one of the increasing ranges. -/
def inRanges : List (Nat × Nat) → Nat → Bool
  | [], _ => false
  | (lo, hi) :: rest, n => if n < lo then false else n ≤ hi || inRanges rest n

/-- The value of the last entry that does not begin after `n`. -/
def lastUpTo {α : Type} (n : Nat) : α → List (Nat × α) → α
  | found, [] => found
  | found, (start, a) :: rest => if n < start then found else lastUpTo n a rest

/-- The page for `n`: the last one whose first entry does not begin after `n`. -/
def pageFor {α : Type} (n : Nat) : List (Nat × α) → List (List (Nat × α)) → List (Nat × α)
  | found, [] => found
  | found, page :: rest =>
    match page with
    | [] => pageFor n found rest
    | (start, _) :: _ => if n < start then found else pageFor n page rest

def category (c : Char) : Category :=
  lastUpTo c.toNat .Cn (pageFor c.toNat [] categoryPages)

/-- Code points that are alphabetic although they are neither letters nor letter numbers. -/
private def otherAlphabetic : List (Nat × Nat) := [
  (0x345, 0x345), (0x363, 0x36f), (0x5b0, 0x5bd), (0x5bf, 0x5bf), (0x5c1, 0x5c2),
  (0x5c4, 0x5c5), (0x5c7, 0x5c7), (0x610, 0x61a), (0x64b, 0x657), (0x659, 0x65f),
  (0x670, 0x670), (0x6d6, 0x6dc), (0x6e1, 0x6e4), (0x6e7, 0x6e8), (0x6ed, 0x6ed),
  (0x711, 0x711), (0x730, 0x73f), (0x7a6, 0x7b0), (0x816, 0x817), (0x81b, 0x823),
  (0x825, 0x827), (0x829, 0x82c), (0x897, 0x897), (0x8d4, 0x8df), (0x8e3, 0x8e9),
  (0x8f0, 0x903), (0x93a, 0x93b), (0x93e, 0x94c), (0x94e, 0x94f), (0x955, 0x957),
  (0x962, 0x963), (0x981, 0x983), (0x9be, 0x9c4), (0x9c7, 0x9c8), (0x9cb, 0x9cc),
  (0x9d7, 0x9d7), (0x9e2, 0x9e3), (0xa01, 0xa03), (0xa3e, 0xa42), (0xa47, 0xa48),
  (0xa4b, 0xa4c), (0xa51, 0xa51), (0xa70, 0xa71), (0xa75, 0xa75), (0xa81, 0xa83),
  (0xabe, 0xac5), (0xac7, 0xac9), (0xacb, 0xacc), (0xae2, 0xae3), (0xafa, 0xafc),
  (0xb01, 0xb03), (0xb3e, 0xb44), (0xb47, 0xb48), (0xb4b, 0xb4c), (0xb56, 0xb57),
  (0xb62, 0xb63), (0xb82, 0xb82), (0xbbe, 0xbc2), (0xbc6, 0xbc8), (0xbca, 0xbcc),
  (0xbd7, 0xbd7), (0xc00, 0xc04), (0xc3e, 0xc44), (0xc46, 0xc48), (0xc4a, 0xc4c),
  (0xc55, 0xc56), (0xc62, 0xc63), (0xc81, 0xc83), (0xcbe, 0xcc4), (0xcc6, 0xcc8),
  (0xcca, 0xccc), (0xcd5, 0xcd6), (0xce2, 0xce3), (0xcf3, 0xcf3), (0xd00, 0xd03),
  (0xd3e, 0xd44), (0xd46, 0xd48), (0xd4a, 0xd4c), (0xd57, 0xd57), (0xd62, 0xd63),
  (0xd81, 0xd83), (0xdcf, 0xdd4), (0xdd6, 0xdd6), (0xdd8, 0xddf), (0xdf2, 0xdf3),
  (0xe31, 0xe31), (0xe34, 0xe3a), (0xe4d, 0xe4d), (0xeb1, 0xeb1), (0xeb4, 0xeb9),
  (0xebb, 0xebc), (0xecd, 0xecd), (0xf71, 0xf83), (0xf8d, 0xf97), (0xf99, 0xfbc),
  (0x102b, 0x1036), (0x1038, 0x1038), (0x103b, 0x103e), (0x1056, 0x1059), (0x105e, 0x1060),
  (0x1062, 0x1064), (0x1067, 0x106d), (0x1071, 0x1074), (0x1082, 0x108d), (0x108f, 0x108f),
  (0x109a, 0x109d), (0x1712, 0x1713), (0x1732, 0x1733), (0x1752, 0x1753), (0x1772, 0x1773),
  (0x17b6, 0x17c8), (0x1885, 0x1886), (0x18a9, 0x18a9), (0x1920, 0x192b), (0x1930, 0x1938),
  (0x1a17, 0x1a1b), (0x1a55, 0x1a5e), (0x1a61, 0x1a74), (0x1abf, 0x1ac0), (0x1acc, 0x1ace),
  (0x1b00, 0x1b04), (0x1b35, 0x1b43), (0x1b80, 0x1b82), (0x1ba1, 0x1ba9), (0x1bac, 0x1bad),
  (0x1be7, 0x1bf1), (0x1c24, 0x1c36), (0x1dd3, 0x1df4), (0x24b6, 0x24e9), (0x2de0, 0x2dff),
  (0xa674, 0xa67b), (0xa69e, 0xa69f), (0xa802, 0xa802), (0xa80b, 0xa80b), (0xa823, 0xa827),
  (0xa880, 0xa881), (0xa8b4, 0xa8c3), (0xa8c5, 0xa8c5), (0xa8ff, 0xa8ff), (0xa926, 0xa92a),
  (0xa947, 0xa952), (0xa980, 0xa983), (0xa9b4, 0xa9bf), (0xa9e5, 0xa9e5), (0xaa29, 0xaa36),
  (0xaa43, 0xaa43), (0xaa4c, 0xaa4d), (0xaa7b, 0xaa7d), (0xaab0, 0xaab0), (0xaab2, 0xaab4),
  (0xaab7, 0xaab8), (0xaabe, 0xaabe), (0xaaeb, 0xaaef), (0xaaf5, 0xaaf5), (0xabe3, 0xabea),
  (0xfb1e, 0xfb1e), (0x10376, 0x1037a), (0x10a01, 0x10a03), (0x10a05, 0x10a06),
  (0x10a0c, 0x10a0f), (0x10d24, 0x10d27), (0x10d69, 0x10d69), (0x10eab, 0x10eac),
  (0x10efa, 0x10efc), (0x11000, 0x11002), (0x11038, 0x11045), (0x11073, 0x11074),
  (0x11080, 0x11082), (0x110b0, 0x110b8), (0x110c2, 0x110c2), (0x11100, 0x11102),
  (0x11127, 0x11132), (0x11145, 0x11146), (0x11180, 0x11182), (0x111b3, 0x111bf),
  (0x111ce, 0x111cf), (0x1122c, 0x11234), (0x11237, 0x11237), (0x1123e, 0x1123e),
  (0x11241, 0x11241), (0x112df, 0x112e8), (0x11300, 0x11303), (0x1133e, 0x11344),
  (0x11347, 0x11348), (0x1134b, 0x1134c), (0x11357, 0x11357), (0x11362, 0x11363),
  (0x113b8, 0x113c0), (0x113c2, 0x113c2), (0x113c5, 0x113c5), (0x113c7, 0x113ca),
  (0x113cc, 0x113cd), (0x11435, 0x11441), (0x11443, 0x11445), (0x114b0, 0x114c1),
  (0x115af, 0x115b5), (0x115b8, 0x115be), (0x115dc, 0x115dd), (0x11630, 0x1163e),
  (0x11640, 0x11640), (0x116ab, 0x116b5), (0x1171d, 0x1172a), (0x1182c, 0x11838),
  (0x11930, 0x11935), (0x11937, 0x11938), (0x1193b, 0x1193c), (0x11940, 0x11940),
  (0x11942, 0x11942), (0x119d1, 0x119d7), (0x119da, 0x119df), (0x119e4, 0x119e4),
  (0x11a01, 0x11a0a), (0x11a35, 0x11a39), (0x11a3b, 0x11a3e), (0x11a51, 0x11a5b),
  (0x11a8a, 0x11a97), (0x11b60, 0x11b67), (0x11c2f, 0x11c36), (0x11c38, 0x11c3e),
  (0x11c92, 0x11ca7), (0x11ca9, 0x11cb6), (0x11d31, 0x11d36), (0x11d3a, 0x11d3a),
  (0x11d3c, 0x11d3d), (0x11d3f, 0x11d41), (0x11d43, 0x11d43), (0x11d47, 0x11d47),
  (0x11d8a, 0x11d8e), (0x11d90, 0x11d91), (0x11d93, 0x11d96), (0x11ef3, 0x11ef6),
  (0x11f00, 0x11f01), (0x11f03, 0x11f03), (0x11f34, 0x11f3a), (0x11f3e, 0x11f40),
  (0x1611e, 0x1612e), (0x16f4f, 0x16f4f), (0x16f51, 0x16f87), (0x16f8f, 0x16f92),
  (0x16ff0, 0x16ff1), (0x1bc9e, 0x1bc9e), (0x1e000, 0x1e006), (0x1e008, 0x1e018),
  (0x1e01b, 0x1e021), (0x1e023, 0x1e024), (0x1e026, 0x1e02a), (0x1e08f, 0x1e08f),
  (0x1e6e3, 0x1e6e3), (0x1e6e6, 0x1e6e6), (0x1e6ee, 0x1e6ef), (0x1e6f5, 0x1e6f5),
  (0x1e947, 0x1e947), (0x1f130, 0x1f149), (0x1f150, 0x1f169), (0x1f170, 0x1f189)]

private def otherLowercase : List (Nat × Nat) := [
  (0xaa, 0xaa), (0xba, 0xba), (0x2b0, 0x2b8), (0x2c0, 0x2c1), (0x2e0, 0x2e4), (0x345, 0x345),
  (0x37a, 0x37a), (0x10fc, 0x10fc), (0x1d2c, 0x1d6a), (0x1d78, 0x1d78), (0x1d9b, 0x1dbf),
  (0x2071, 0x2071), (0x207f, 0x207f), (0x2090, 0x209c), (0x2170, 0x217f), (0x24d0, 0x24e9),
  (0x2c7c, 0x2c7d), (0xa69c, 0xa69d), (0xa770, 0xa770), (0xa7f1, 0xa7f4), (0xa7f8, 0xa7f9),
  (0xab5c, 0xab5f), (0xab69, 0xab69), (0x10780, 0x10780), (0x10783, 0x10785),
  (0x10787, 0x107b0), (0x107b2, 0x107ba), (0x1e030, 0x1e06d)]

private def otherUppercase : List (Nat × Nat) := [
  (0x2160, 0x216f), (0x24b6, 0x24cf), (0x1f130, 0x1f149), (0x1f150, 0x1f169),
  (0x1f170, 0x1f189)]

/-- The middle punctuation that does not end a word for the purpose of case. -/
private def otherCaseIgnorable : List (Nat × Nat) := [
  (0x27, 0x27), (0x2e, 0x2e), (0x3a, 0x3a), (0xb7, 0xb7), (0x387, 0x387), (0x55f, 0x55f),
  (0x5f4, 0x5f4), (0x2018, 0x2019), (0x2024, 0x2024), (0x2027, 0x2027), (0xfe13, 0xfe13),
  (0xfe52, 0xfe52), (0xfe55, 0xfe55), (0xff07, 0xff07), (0xff0e, 0xff0e), (0xff1a, 0xff1a)]

def isAlphabetic (c : Char) : Bool :=
  if c.toNat < 0x80 then c.isAlpha
  else match category c with
    | .Lu | .Ll | .Lt | .Lm | .Lo | .Nl => true
    | _ => inRanges otherAlphabetic c.toNat

def isLowercase (c : Char) : Bool :=
  category c == .Ll || inRanges otherLowercase c.toNat

def isUppercase (c : Char) : Bool :=
  category c == .Lu || inRanges otherUppercase c.toNat

def isCased (c : Char) : Bool :=
  isLowercase c || isUppercase c || category c == .Lt

def isCaseIgnorable (c : Char) : Bool :=
  match category c with
  | .Mn | .Me | .Cf | .Lm | .Sk => true
  | _ => inRanges otherCaseIgnorable c.toNat

/-- A decimal digit of any script. -/
def isDigit (c : Char) : Bool :=
  if c.toNat < 0x80 then c.isDigit else category c == .Nd

/-- A character that is alphabetic or a number of any kind. -/
def isAlphanumeric (c : Char) : Bool :=
  isAlphabetic c || category c ∈ Category.numbers

/-- A character of a word: a letter, mark, digit, connector or joiner. -/
def isWord (c : Char) : Bool :=
  if c.toNat < 0x80 then c.isAlphanum || c == '_'
  else match category c with
    | .Mn | .Mc | .Me | .Nd | .Pc => true
    | _ => isAlphabetic c || c == '\u200c' || c == '\u200d'

/-- Code points that may begin an identifier although they are neither letters nor letter
numbers. -/
private def otherIdentifierStart : List (Nat × Nat) := [
  (0x1885, 0x1886), (0x2118, 0x2118), (0x212e, 0x212e), (0x309b, 0x309c)]

/-- Code points that may go on with an identifier although nothing in their category says so. -/
private def otherIdentifierPart : List (Nat × Nat) := [
  (0xb7, 0xb7), (0x387, 0x387), (0x1369, 0x1371), (0x19da, 0x19da), (0x200c, 0x200d),
  (0x30fb, 0x30fb), (0xff65, 0xff65)]

/-- Code points that would begin an identifier but for their compatibility forms. -/
private def unstableStart : List (Nat × Nat) := [
  (0x37a, 0x37a), (0xe33, 0xe33), (0xeb3, 0xeb3), (0x309b, 0x309c), (0xfc5e, 0xfc63),
  (0xfdfa, 0xfdfb), (0xfe70, 0xfe70), (0xfe72, 0xfe72), (0xfe74, 0xfe74), (0xfe76, 0xfe76),
  (0xfe78, 0xfe78), (0xfe7a, 0xfe7a), (0xfe7c, 0xfe7c), (0xfe7e, 0xfe7e), (0xff9e, 0xff9f)]

/-- Code points that would go on with an identifier but for their compatibility forms. -/
private def unstablePart : List (Nat × Nat) := [
  (0x37a, 0x37a), (0x309b, 0x309c), (0xfc5e, 0xfc63), (0xfdfa, 0xfdfb), (0xfe70, 0xfe70),
  (0xfe72, 0xfe72), (0xfe74, 0xfe74), (0xfe76, 0xfe76), (0xfe78, 0xfe78), (0xfe7a, 0xfe7a),
  (0xfe7c, 0xfe7c), (0xfe7e, 0xfe7e)]

def isIdentifierStart (c : Char) : Bool :=
  c != '\u2e2f' &&
    (category c ∈ Category.Nl :: Category.letters || inRanges otherIdentifierStart c.toNat)

def isIdentifierPart (c : Char) : Bool :=
  isIdentifierStart c || category c ∈ [.Mn, .Mc, .Nd, .Pc] || inRanges otherIdentifierPart c.toNat

/-- A property that a pattern can ask for. -/
inductive Property where
  /-- One of these general categories. -/
  | oneOf (categories : List Category)
  /-- A code point in one of these ranges. -/
  | within (ranges : List (Nat × Nat))
  | alphabetic
  | lowercase
  | uppercase
  | cased
  | caseIgnorable
  | whiteSpace
  | identifierStart
  | identifierPart
  /-- May begin an identifier, also after compatibility forms are taken apart. -/
  | stableIdentifierStart
  | stableIdentifierPart
deriving DecidableEq

namespace Property

def holds : Property → Char → Bool
  | oneOf categories, c => categories.contains (category c)
  | within ranges, c => inRanges ranges c.toNat
  | alphabetic, c => isAlphabetic c
  | lowercase, c => isLowercase c
  | uppercase, c => isUppercase c
  | cased, c => isCased c
  | caseIgnorable, c => isCaseIgnorable c
  | whiteSpace, c => isBlank c
  | identifierStart, c => isIdentifierStart c
  | identifierPart, c => isIdentifierPart c
  | stableIdentifierStart, c => isIdentifierStart c && !inRanges unstableStart c.toNat
  | stableIdentifierPart, c => isIdentifierPart c && !inRanges unstablePart c.toNat

/-- The loose spelling of a property name: blanks, `_` and `-` do not count, nor
does the case of a letter, nor the word `is` in front, but for the name `isc`. -/
def looseName (name : List Char) : List Char :=
  let kept := (name.filter fun c => c.toNat < 0x80 && c != ' ' && c != '_' && c != '-').map
    Char.toLower
  match name, kept with
  | a :: b :: _, _ :: _ :: rest =>
    if (a == 'i' || a == 'I') && (b == 's' || b == 'S') then
      if rest == ['c'] then kept else rest
    else kept
  | _, _ => kept

/-- The properties that are simply true or false of a character, by loose name. -/
private def binaryNames : List (List String × Property) := [
  (["alpha", "alphabetic"], alphabetic),
  (["lower", "lowercase"], lowercase),
  (["upper", "uppercase"], uppercase),
  (["cased"], cased),
  (["ci", "caseignorable"], caseIgnorable),
  (["wspace", "whitespace", "space"], whiteSpace),
  (["joinc", "joincontrol"], within [(0x200c, 0x200d)]),
  (["ahex", "asciihexdigit"], within [(0x30, 0x39), (0x41, 0x46), (0x61, 0x66)]),
  (["hex", "hexdigit"], within [(0x30, 0x39), (0x41, 0x46), (0x61, 0x66),
    (0xff10, 0xff19), (0xff21, 0xff26), (0xff41, 0xff46)]),
  (["ids", "idstart"], identifierStart),
  (["idc", "idcontinue"], identifierPart),
  (["xids", "xidstart"], stableIdentifierStart),
  (["xidc", "xidcontinue"], stableIdentifierPart)]

private def lookUp {α : Type} (name : List Char) : List (List String × α) → Option α
  | [] => none
  | (names, a) :: rest =>
    if names.any fun n => n.toList == name then some a else lookUp name rest

private def ofCategoryName? (name : List Char) : Option Property :=
  if name == "ascii".toList then some (within [(0, 0x7f)])
  else (lookUp name Category.named).map oneOf

private def ofScriptName? (name : List Char) : Option Property :=
  (scripts.find? fun s => s.names.any fun n => n.toList == name).map fun s => within s.ranges

/-- The property with this name: one that is simply true or false of a character,
else a general category, else a script. -/
def ofName? (name : List Char) : Option Property :=
  let name := looseName name
  lookUp name binaryNames <|> (lookUp name listedProperties).map within <|>
    ofCategoryName? name <|> ofScriptName? name

/-- The property of having this value for the general category or the script. -/
def ofNameValue? (name value : List Char) : Option Property :=
  let name := looseName name
  let value := looseName value
  if name == "gc".toList || name == "generalcategory".toList then ofCategoryName? value
  else if name == "sc".toList || name == "script".toList then ofScriptName? value
  else none

/-! ### The spelling of names -/

private theorem exists_of_lookUp {α : Type} {name : List Char} {a : α} :
    ∀ {table : List (List String × α)}, lookUp name table = some a →
      ∃ entry ∈ table, ∃ n ∈ entry.1, n.toList = name
  | [], h => by simp [lookUp] at h
  | (names, b) :: rest, h => by
      rw [lookUp] at h
      split at h
      · rename_i hany
        obtain ⟨n, hn, heq⟩ := List.any_eq_true.mp hany
        exact ⟨_, List.mem_cons_self, n, hn, eq_of_beq heq⟩
      · obtain ⟨entry, hentry, hn⟩ := exists_of_lookUp h
        exact ⟨entry, List.mem_cons_of_mem _ hentry, hn⟩

private theorem all_of_lookUp {α : Type} {p : Char → Bool} {name : List Char} {a : α}
    {table : List (List String × α)}
    (htable : (table.all fun entry => entry.1.all fun n => n.toList.all p) = true)
    (h : lookUp name table = some a) : name.all p = true := by
  obtain ⟨entry, hentry, n, hn, rfl⟩ := exists_of_lookUp h
  exact List.all_eq_true.mp (List.all_eq_true.mp htable entry hentry) n hn

private theorem ofCategoryName?_all {name : List Char} {p : Property}
    (h : ofCategoryName? name = some p) : name.all Char.isAlphanum = true := by
  unfold ofCategoryName? at h
  split at h
  · rename_i hascii
    rw [eq_of_beq hascii]
    decide
  · obtain ⟨categories, hlookUp, -⟩ := Option.map_eq_some_iff.mp h
    exact all_of_lookUp (by decide +kernel) hlookUp

private theorem ofScriptName?_all {name : List Char} {p : Property}
    (h : ofScriptName? name = some p) : name.all Char.isAlphanum = true := by
  have hscripts : (scripts.all fun s => s.names.all fun n => n.toList.all Char.isAlphanum) = true :=
    by decide +kernel
  obtain ⟨script, hfind, -⟩ := Option.map_eq_some_iff.mp h
  have hany := List.find?_some hfind
  obtain ⟨n, hn, heq⟩ := List.any_eq_true.mp hany
  have hnames := List.all_eq_true.mp hscripts script (List.mem_of_find?_eq_some hfind)
  exact eq_of_beq heq ▸ List.all_eq_true.mp hnames n hn

/-- As far as its spelling counts, the name of a property is made of letters and digits. -/
theorem ofName?_all {name : List Char} {p : Property} (h : ofName? name = some p) :
    (looseName name).all Char.isAlphanum = true := by
  have hor : ∀ {a b : Option Property}, (a <|> b) = some p → a = some p ∨ b = some p := by
    intro a b hab
    cases a with
    | none => exact Or.inr hab
    | some _ => exact Or.inl hab
  unfold ofName? at h
  rcases hor h with h | h
  · exact all_of_lookUp (by decide +kernel) h
  · rcases hor h with h | h
    · obtain ⟨ranges, h, -⟩ := Option.map_eq_some_iff.mp h
      exact all_of_lookUp (by decide +kernel) h
    · rcases hor h with h | h
      · exact ofCategoryName?_all h
      · exact ofScriptName?_all h

/-- So are the name and the value of a property that has one. -/
theorem ofNameValue?_all {name value : List Char} {p : Property}
    (h : ofNameValue? name value = some p) :
    (looseName name).all Char.isAlphanum = true ∧ (looseName value).all Char.isAlphanum = true := by
  unfold ofNameValue? at h
  dsimp only at h
  split at h
  · rename_i hname
    refine ⟨?_, ofCategoryName?_all h⟩
    rcases Bool.or_eq_true_iff.mp hname with hname | hname <;>
      exact eq_of_beq hname ▸ by decide
  · split at h
    · rename_i hname
      refine ⟨?_, ofScriptName?_all h⟩
      rcases Bool.or_eq_true_iff.mp hname with hname | hname <;>
        exact eq_of_beq hname ▸ by decide
    · simp at h

section

variable {name : List Char} {c : Char} (hascii : c.toNat < 0x80) (hsign : c.isAlphanum = false)
  (hcounts : c ∉ [' ', '_', '-'])

include hascii hsign hcounts

/-- A sign of ASCII other than blanks, `_` and `-` counts in the spelling of a name, since the word
that may be left out in front is made of letters. -/
theorem mem_looseName (hc : c ∈ name) : c ∈ looseName name := by
  have hlower : c.toLower = c := by
    have hupper : c.isUpper = false :=
      (Bool.or_eq_false_iff.mp (Bool.or_eq_false_iff.mp hsign).1).1
    unfold Char.toLower
    exact dif_neg (of_decide_eq_false hupper)
  have hkept : c ∈ (name.filter fun c => c.toNat < 0x80 && c != ' ' && c != '_' && c != '-').map
      Char.toLower := by
    refine List.mem_map.mpr ⟨c, List.mem_filter.mpr ⟨hc, ?_⟩, hlower⟩
    simp only [List.mem_cons, List.not_mem_nil, or_false, not_or] at hcounts
    simp [hascii, hcounts]
  unfold looseName
  dsimp only
  split
  · rename_i a b _ x y rest heq
    rw [heq] at hkept
    split
    · rename_i hword
      split
      · rw [heq]
        exact hkept
      · -- the first two letters of the spelling are those of the word
        have hxy : x = 'i' ∧ y = 's' := by
          obtain ⟨ha, hb⟩ := Bool.and_eq_true_iff.mp hword
          simp only [Bool.or_eq_true, beq_iff_eq] at ha hb
          rcases ha with rfl | rfl <;> rcases hb with rfl | rfl <;> simp at heq <;>
            exact ⟨heq.1.symm, heq.2.1.symm⟩
        obtain ⟨rfl, rfl⟩ := hxy
        rcases List.mem_cons.mp hkept with rfl | hkept
        · exact absurd hsign (by decide)
        · rcases List.mem_cons.mp hkept with rfl | hkept
          · exact absurd hsign (by decide)
          · exact hkept
    · rw [heq]
      exact hkept
  · exact hkept

theorem not_all_looseName (hc : c ∈ name) : (looseName name).all Char.isAlphanum ≠ true :=
  fun hall => Bool.false_ne_true
    (hsign.symm.trans (List.all_eq_true.mp hall c (mem_looseName hascii hsign hcounts hc)))

/-- No property has such a sign in its name. -/
theorem ofName?_eq_none (hc : c ∈ name) : ofName? name = none :=
  Option.eq_none_iff_forall_ne_some.mpr fun _ h =>
    not_all_looseName hascii hsign hcounts hc (ofName?_all h)

theorem ofNameValue?_eq_none {value : List Char} (hc : c ∈ name ∨ c ∈ value) :
    ofNameValue? name value = none :=
  Option.eq_none_iff_forall_ne_some.mpr fun _ h =>
    hc.elim (fun hc => not_all_looseName hascii hsign hcounts hc (ofNameValue?_all h).1)
      fun hc => not_all_looseName hascii hsign hcounts hc (ofNameValue?_all h).2

end

end Property

end Gapfill.Unicode
