import Gapfill.Number.Digits

/-!
# Universally unique identifiers

An identifier is a number of 128 bits. It is written with 32 hexadecimal digits in five groups,
and may be read also without the hyphens, in braces or as a name in the space `urn:uuid:`.
-/

namespace Gapfill

/-- An identifier of 128 bits. -/
structure Uuid where
  bits : BitVec 128
deriving DecidableEq

namespace Uuid

/-- The identifier that identifies nothing. -/
def nothing : Uuid := ⟨0⟩

/-- An identifier of version 4, made from random bits: six of them say that it is one. -/
def ofRandom (bits : BitVec 128) : Uuid :=
  ⟨bits &&& ~~~(0xf000c000000000000000 : BitVec 128) ||| 0x40008000000000000000⟩

/-- The identifier in its usual form. -/
def text (id : Uuid) : String :=
  let n := id.bits.toNat
  String.ofList <| ['-'].intercalate
    [hexDigits 8 (n >>> 96), hexDigits 4 (n >>> 80), hexDigits 4 (n >>> 64),
      hexDigits 4 (n >>> 48), hexDigits 12 n]

def ofDigits? (digits : List Char) : Option Uuid :=
  if digits.length = 32 then (readHex digits).map fun n => ⟨BitVec.ofNat 128 n⟩ else none

/-- Reads five groups of digits with hyphens between them. -/
def ofGroups? (text : List Char) : Option Uuid :=
  let at8 := text.drop 8
  let at13 := text.drop 13
  let at18 := text.drop 18
  let at23 := text.drop 23
  if text.length = 36 && [at8, at13, at18, at23].all (·.head? == some '-') then
    ofDigits? (text.take 8 ++ (at8.take 5).drop 1 ++ (at13.take 5).drop 1 ++ (at18.take 5).drop 1 ++
      at23.drop 1)
  else none

/-- The form with a name space before it. -/
def namespaceMark : List Char := "urn:uuid:".toList

def ofText? (text : String) : Option Uuid :=
  let s := text.toList
  if s.length = 32 then ofDigits? s
  else if s.length = 38 then
    if s.head? == some '\x7b' && s.getLast? == some '\x7d' then ofGroups? (s.drop 1).dropLast
    else none
  else if s.length = 45 then
    if namespaceMark.isPrefixOf s then ofGroups? (s.drop 9) else none
  else ofGroups? s

end Uuid

end Gapfill
