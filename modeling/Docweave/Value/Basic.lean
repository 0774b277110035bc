import Docweave.Value.Double
import Docweave.Value.Moment
import Docweave.Text.Quote

/-!
# Plain values

Settings and settings files hold plain data: nothing, truth values, numbers, texts, bytes, dates, moments, lists,
pairs, sets and mappings. A mapping keeps its entries in the order in which they were written. A value has two
texts: its literal, in which texts are quoted, and its plain text, in which a text stands for itself. A whole
number that is too long has neither.

A value may stand in several places, even inside of itself. Then it carries a mark, and all values of one mark are
one value. Inside of itself only its mark is written down.
-/

namespace Docweave

/-- A plain value. -/
inductive Value where
  | null
  | bool (value : Bool)
  | int (value : Int)
  | double (value : Double)
  | text (value : Text)
  | bytes (value : List UInt8)
  | date (year month day : Nat)
  | moment (value : Moment)
  | list (items : List Value)
  | pair (first second : Value)
  | set (items : List Value)
  | mapping (entries : List (Value × Value))
  | shared (mark : Nat) (value : Value)
  | again (mark : Nat)
  deriving Repr, Inhabited

namespace Value

mutual

/-- Whether two values are the same. -/
def same : Value → Value → Bool
  | .null, .null => true
  | .bool left, .bool right => left == right
  | .int left, .int right => left == right
  | .double left, .double right => left == right
  | .text left, .text right => left == right
  | .bytes left, .bytes right => left == right
  | .date year month day, .date year' month' day' => year == year' && month == month' && day == day'
  | .moment left, .moment right => left == right
  | .list left, .list right => sameItems left right
  | .pair left next, .pair right next' => same left right && same next next'
  | .set left, .set right => sameItems left right
  | .mapping left, .mapping right => sameEntries left right
  | .shared mark left, .shared mark' right => mark == mark' && same left right
  | .again mark, .again mark' => mark == mark'
  | _, _ => false

/-- Whether two lists hold the same values in the same order. -/
def sameItems : List Value → List Value → Bool
  | [], [] => true
  | left :: lefts, right :: rights => same left right && sameItems lefts rights
  | _, _ => false

/-- Whether two mappings hold the same entries in the same order. -/
def sameEntries : List (Value × Value) → List (Value × Value) → Bool
  | [], [] => true
  | (leftKey, left) :: lefts, (rightKey, right) :: rights =>
    same leftKey rightKey && same left right && sameEntries lefts rights
  | _, _ => false

end

instance : BEq Value := ⟨same⟩

/-- Write a byte between quotes. -/
def escapeByte (quote : Char) (byte : UInt8) : Text :=
  if byte < 128 then Text.escapeChar quote (Char.ofNat byte.toNat) else Text.escapeCode byte.toNat

/-- Write bytes between quotes. -/
def bytesLiteral (bytes : List UInt8) : Text :=
  let quote := Text.quoteFor (bytes.map fun byte => Char.ofNat byte.toNat)
  'b' :: quote :: bytes.flatMap (escapeByte quote) ++ [quote]

/-- What is written for a value inside of itself. -/
def dots : Value → Text
  | .list _ => "[...]"
  | _ => "\x7b...\x7d"

mutual

/-- The literal of a value inside of others that carry a mark. -/
def literalIn (around : List (Nat × Text)) : Value → Text
  | .null => "None"
  | .bool value => if value then "True" else "False"
  | .int value => Text.ofInt value
  | .double value => value.render
  | .text value => Text.quoted value
  | .bytes value => bytesLiteral value
  | .date year month day =>
    "datetime.date(" ++ Text.join ", " [Text.ofNat year, Text.ofNat month, Text.ofNat day] ++ ")"
  | .moment value => value.literal
  | .list items => '[' :: Text.join ", " (literalsIn around items) ++ [']']
  | .pair first second => '(' :: literalIn around first ++ ", " ++ literalIn around second ++ [')']
  | .set [] => "set()"
  | .set items => '{' :: Text.join ", " (literalsIn around items) ++ ['}']
  | .mapping entries => '{' :: Text.join ", " (entryLiteralsIn around entries) ++ ['}']
  | .shared mark value =>
    match around.lookup mark with
    | some dots => dots
    | none => literalIn ((mark, dots value) :: around) value
  | .again mark => (around.lookup mark).getD []

/-- The literals of several values. -/
def literalsIn (around : List (Nat × Text)) : List Value → List Text
  | [] => []
  | item :: items => literalIn around item :: literalsIn around items

/-- The literals of the entries of a mapping. -/
def entryLiteralsIn (around : List (Nat × Text)) : List (Value × Value) → List Text
  | [] => []
  | (key, value) :: entries =>
    (literalIn around key ++ ": " ++ literalIn around value) :: entryLiteralsIn around entries

end

/-- The literal of a value, in which texts are quoted. -/
def literal (value : Value) : Text := literalIn [] value

/-- The plain text of a value: a text stands for itself. -/
def plainText : Value → Text
  | .text value => value
  | .date year month day | .shared _ (.date year month day) => Moment.dayText year month day
  | .moment value | .shared _ (.moment value) => value.render
  | value => literal value

/-- Whether a value counts as absent: nothing, false, zero, or empty. -/
def isEmpty : Value → Bool
  | .null => true
  | .bool value => !value
  | .int value => value == 0
  | .double value => value.isZero
  | .text value => value.isEmpty
  | .bytes value => value.isEmpty
  | .date _ _ _ | .moment _ | .pair _ _ => false
  | .list items | .set items => items.isEmpty
  | .mapping entries => entries.isEmpty
  | .shared _ value => value.isEmpty
  | .again _ => false

/-- The most decimal digits of a whole number that is written or read. -/
def mostDigits : Nat := 4300

mutual

/-- Whether one of the single values that a value is made up of passes a test. -/
def holds (test : Value → Bool) : Value → Bool
  | .list items | .set items => someHolds test items
  | .pair first second => holds test first || holds test second
  | .mapping entries => entriesHold test entries
  | .shared _ value => holds test value
  | value => test value

/-- Whether one of several values is made up of such a value. -/
def someHolds (test : Value → Bool) : List Value → Bool
  | [] => false
  | item :: items => holds test item || someHolds test items

/-- Whether one of several entries is made up of such a value. -/
def entriesHold (test : Value → Bool) : List (Value × Value) → Bool
  | [] => false
  | (key, value) :: entries => holds test key || holds test value || entriesHold test entries

end

/-- Whether a value holds a whole number that is too long to be written. -/
def isTooLong : Value → Bool :=
  holds fun
    | .int value => value.natAbs ≥ Nat.pow 10 mostDigits
    | _ => false

/-- Whether a value stands inside of itself, so that no copy of it comes to an end. -/
def isEndless : Value → Bool :=
  holds fun
    | .again _ => true
    | _ => false

mutual

/-- A copy of a value, in which nothing is shared. Pairs are kept, or else written as lists. -/
def copied (pairs : Bool) : Value → Value
  | .list items => .list (allCopied pairs items)
  | .pair first second =>
    if pairs then .pair (copied pairs first) (copied pairs second)
    else .list [copied pairs first, copied pairs second]
  | .mapping entries => .mapping (entriesCopied pairs entries)
  | .shared _ value => copied pairs value
  | value => value

/-- Copies of values. -/
def allCopied (pairs : Bool) : List Value → List Value
  | [] => []
  | item :: items => copied pairs item :: allCopied pairs items

/-- Copies of entries. -/
def entriesCopied (pairs : Bool) : List (Value × Value) → List (Value × Value)
  | [] => []
  | (key, value) :: entries => (key, copied pairs value) :: entriesCopied pairs entries

end

mutual

/-- Write down what a mark inside of a value stands for. -/
def replace (mark : Nat) (meant : Value) : Value → Value
  | .again other => if other = mark then meant else .again other
  | .shared other value => .shared other (replace mark meant value)
  | .list items => .list (replaceAll mark meant items)
  | .pair first second => .pair (replace mark meant first) (replace mark meant second)
  | .mapping entries => .mapping (replaceEntries mark meant entries)
  | value => value

/-- Write down what a mark inside of values stands for. -/
def replaceAll (mark : Nat) (meant : Value) : List Value → List Value
  | [] => []
  | item :: items => replace mark meant item :: replaceAll mark meant items

/-- Write down what a mark inside of entries stands for. -/
def replaceEntries (mark : Nat) (meant : Value) : List (Value × Value) → List (Value × Value)
  | [] => []
  | (key, value) :: entries => (key, replace mark meant value) :: replaceEntries mark meant entries

end

/-- A value without its mark, as it is when what is inside of it is looked at. -/
def opened : Value → Value
  | .shared mark value => replace mark (.shared mark value) value
  | value => value

/-- A number as a quotient. A truth value counts as zero or one. -/
def quotient? : Value → Option (Int × Nat)
  | .bool value => some (if value then 1 else 0, 1)
  | .int value => some (value, 1)
  | .double value => value.quotient?
  | _ => none

/-- Whether two values are the same key of a mapping: numbers are compared by size alone. -/
def sameKey (left right : Value) : Bool :=
  match left.quotient?, right.quotient? with
  | some (above, below), some (above', below') => above * below' == above' * below
  | _, _ => left == right

/-- Put an entry into a list of entries: a key that is there keeps its place. -/
def putEntry {κ ν : Type} (sameKey : κ → κ → Bool) (key : κ) (value : ν) : List (κ × ν) → List (κ × ν)
  | [] => [(key, value)]
  | (other, old) :: rest =>
    if sameKey other key then (other, value) :: rest
    else (other, old) :: putEntry sameKey key value rest

end Value

end Docweave
