import Dispatch.Jinja.Datum
import Dispatch.Jinja.Fault

/-!
# Operations on values

Comparison, arithmetic and access to parts. Truth values count as zero and one; an operation on an
integer and a floating-point number is one on floating-point numbers. Integers have at most 127
bits and a sign.
-/

namespace Dispatch.Jinja

namespace Datum

/-! ## 1. Numbers -/

/-- Whether an integer is in the range of integers. -/
def inRange (n : Int) : Bool := -(Nat.pow 2 127) ≤ n && n < Nat.pow 2 127

/-- The integer that a floating-point number is. -/
def integral? (x : Float) : Option Int :=
  let n := x.toInt64.toInt
  if Float.ofInt n == x then some n else Option.none

/-- A value as an integer. -/
def int? : Datum → Option Int
  | .bool b => some (if b then 1 else 0)
  | .int n => if inRange n then some n else Option.none
  | .float x => integral? x
  | _ => Option.none

/-- A value as a floating-point number, if need be the nearest. -/
def float? : Datum → Option Float
  | .bool b => some (if b then 1.0 else 0.0)
  | .int n => some (Float.ofInt n)
  | .float x => some x
  | _ => Option.none

/-- Whether an integer is a floating-point number. -/
def isExact (n : Int) : Bool := n.natAbs % Nat.pow 2 (Nat.log2 n.natAbs - 52) = 0

/-- Two numbers of one kind. -/
inductive Pair where
  | ints (a b : Int)
  | floats (a b : Float)

/-- Two values as numbers of one kind. -/
def pair? (a b : Datum) : Option Pair :=
  match a, b with
  | .float x, b => b.float?.map fun y => .floats x y
  | a, .float y => a.float?.map fun x => .floats x y
  | a, b => do return .ints (← a.int?) (← b.int?)

/-- Two values as numbers of one kind without rounding. -/
def exactPair? (a b : Datum) : Option Pair :=
  let exact : Datum → Bool
    | .int n => isExact n
    | _ => true
  match a, b with
  | .float _, b => if exact b then pair? a b else Option.none
  | a, .float _ => if exact a then pair? a b else Option.none
  | a, b => pair? a b

/-! ## 2. Comparison -/

/-- The place of a kind of value in the order of values. -/
def rank : Datum → Nat
  | .undefined => 0
  | .none => 1
  | .bool _ => 2
  | .int _ => 3
  | .float _ => 3
  | .string _ => 4
  | .list _ => 5
  | .map _ => 6
  | _ => 7

/-- The order of two numbers. -/
def Pair.order : Pair → Ordering
  | .ints a b => compare a b
  | .floats a b => if a < b then .lt else if a > b then .gt else .eq

/-- The order of two texts. -/
def textOrder (a b : Text) : Ordering := if a < b then .lt else if b < a then .gt else .eq

mutual

/-- The order of two values: by kind, then by what they are. -/
def order (a b : Datum) : Ordering :=
  match compare a.rank b.rank with
  | .eq =>
    match a, b with
    | .string s, .string t => textOrder s t
    | .list s, .list t => orderItems s t
    | .map s, .map t => orderEntries s t
    | a, b => ((exactPair? a b).map Pair.order).getD .eq
  | other => other

/-- The order of two lists: item by item. -/
def orderItems : List Datum → List Datum → Ordering
  | [], [] => .eq
  | [], _ :: _ => .lt
  | _ :: _, [] => .gt
  | a :: as, b :: bs => (order a b).then (orderItems as bs)

/-- The order of two maps: entry by entry. -/
def orderEntries : List (Datum × Datum) → List (Datum × Datum) → Ordering
  | [], [] => .eq
  | [], _ :: _ => .lt
  | _ :: _, [] => .gt
  | (k, a) :: as, (l, b) :: bs => ((order k l).then (order a b)).then (orderEntries as bs)

end

/-- Whether two numbers are equal. -/
def Pair.same : Pair → Bool
  | .ints a b => a = b
  | .floats a b => a == b

mutual

/-- Whether two values are equal. -/
def same : Datum → Datum → Bool
  | .undefined, .undefined => true
  | .none, .none => true
  | .string s, .string t => s = t
  | .list s, .list t => sameItems s t
  | .map s, .map t => sameEntries s t
  | .function f, .function g => f = g
  | a, b => ((exactPair? a b).map Pair.same).getD false

/-- Whether two lists are equal. -/
def sameItems : List Datum → List Datum → Bool
  | [], [] => true
  | a :: as, b :: bs => same a b && sameItems as bs
  | _, _ => false

/-- Whether two maps are equal. -/
def sameEntries : List (Datum × Datum) → List (Datum × Datum) → Bool
  | [], [] => true
  | (k, a) :: as, (l, b) :: bs => same k l && same a b && sameEntries as bs
  | _, _ => false

end

/-! ## 3. Maps -/

/-- Puts an entry into a map, in place of the one under the same key. -/
def insertEntry (key value : Datum) : List (Datum × Datum) → List (Datum × Datum)
  | [] => [(key, value)]
  | (k, v) :: rest =>
    match order key k with
    | .lt => (key, value) :: (k, v) :: rest
    | .eq => (key, value) :: rest
    | .gt => (k, v) :: insertEntry key value rest

/-- The map of some entries, in which the last entry of a key wins. -/
def ofEntries (entries : List (Datum × Datum)) : Datum :=
  .map (entries.foldl (fun map entry => insertEntry entry.1 entry.2 map) [])

/-- The value under a key. -/
def valueAt? (key : Datum) (entries : List (Datum × Datum)) : Option Datum :=
  (entries.find? fun entry => order key entry.1 = .eq).map (·.2)

/-! ## 4. Parts -/

/-- Whether a text occurs in another. -/
def occursIn (part : Text) : Text → Bool
  | [] => part.isEmpty
  | c :: rest => part.isPrefixOf (c :: rest) || occursIn part rest

/-- Whether a value is in another: a part of a text, an item of a list or a key of a map. -/
def contains (container value : Datum) : Except Fault Bool :=
  match container with
  | .undefined => .ok false
  | .string text => .ok (occursIn value.printed text)
  | .list items => .ok (items.any fun item => item.same value)
  | .map entries => .ok (valueAt? value entries).isSome
  | .loop _ _ _ _ => .ok false
  | .function _ => .ok false
  | _ => .error .operation

/-- The place that an index means; a negative one counts from the end. -/
def place? (index : Datum) (size : Nat) : Option Nat := do
  let n ← index.int?
  if 0 ≤ n then return n.toNat
  else if n.natAbs ≤ size then return size - n.natAbs
  else Option.none

/-- What a value has under a key or an index. -/
def item? (container key : Datum) : Option Datum :=
  match container with
  | .list items => do items[← place? key items.length]?
  | .string text => do return .string [← text[← place? key text.length]?]
  | .map entries => valueAt? key entries
  | _ => Option.none

/-- What the state of a loop tells under a name. No loop calls itself, so its depth is one. -/
def loopPart? (past size : Nat) (before after : Datum) (name : Text) : Option Datum :=
  let parts : List (String × Datum) :=
    [("index0", .int past), ("index", .int (past + 1)), ("length", .int size),
     ("revindex0", .int (size - past - 1 : Nat)), ("revindex", .int (size - past : Nat)),
     ("first", .bool (past = 0)), ("last", .bool (past + 1 = size)),
     ("depth0", .int 0), ("depth", .int 1),
     ("previtem", before), ("nextitem", after)]
  Dict.get? (String.ofList name) parts

/-- What a value has under a name. -/
def attribute? (container : Datum) (name : Text) : Option Datum :=
  match container with
  | .map entries => valueAt? (.string name) entries
  | .loop past size before after => loopPart? past size before after name
  | _ => Option.none

/-- A part that may not be there; a value that is not there has no parts. -/
def part (container : Datum) (found : Option Datum) : Except Fault Datum :=
  match found with
  | some d => .ok d
  | Option.none => if container.isUndefined then .error .undefined else .ok .undefined

/-! ## 5. Arithmetic -/

/-- An integer as a result, unless it is out of range. -/
def bounded (n : Int) : Except Fault Datum := if inRange n then .ok (.int n) else .error .operation

/-- An operation on numbers. -/
def arithmetic (onInts : Int → Int → Except Fault Datum) (onFloats : Float → Float → Float)
    (a b : Datum) : Except Fault Datum :=
  match pair? a b with
  | some (.ints a b) => onInts a b
  | some (.floats a b) => .ok (.float (onFloats a b))
  | Option.none => .error .operation

/-- The sum of two numbers, or two texts or lists in a row. -/
def add (a b : Datum) : Except Fault Datum :=
  match a, b with
  | .string s, .string t => .ok (.string (s ++ t))
  | .list s, .list t => .ok (.list (s ++ t))
  | a, b => arithmetic (fun a b => bounded (a + b)) (· + ·) a b

/-- The difference of two numbers. -/
def subtract : Datum → Datum → Except Fault Datum :=
  arithmetic (fun a b => bounded (a - b)) (· - ·)

/-- How often something is repeated. -/
def count (d : Datum) : Except Fault Nat :=
  match d.int? with
  | some n => if 0 ≤ n then .ok n.toNat else .error .operation
  | Option.none => .error .operation

/-- The product of two numbers, or a text or list repeated. -/
def multiply (a b : Datum) : Except Fault Datum :=
  let repeated {α : Type} (items : List α) (d : Datum) : Except Fault (List α) := do
    return (List.replicate (← count d) items).flatten
  match a, b with
  | .string s, d => Datum.string <$> repeated s d
  | d, .string s => Datum.string <$> repeated s d
  | .list s, d => Datum.list <$> repeated s d
  | d, .list s => Datum.list <$> repeated s d
  | a, b => arithmetic (fun a b => bounded (a * b)) (· * ·) a b

/-- The quotient of two numbers as a floating-point number. -/
def divide (a b : Datum) : Except Fault Datum :=
  match a.float?, b.float? with
  | some x, some y => .ok (.float (x / y))
  | _, _ => .error .operation

/-- The whole quotient of two floating-point numbers, with a remainder that is not negative. -/
def wholeQuotient (x y : Float) : Float :=
  let quotient := x / y
  let whole := if quotient < 0.0 then quotient.ceil else quotient.floor
  if x - whole * y < 0.0 then (if y > 0.0 then whole - 1.0 else whole + 1.0) else whole

/-- The whole quotient of two numbers, with a remainder that is not negative. -/
def floorDivide : Datum → Datum → Except Fault Datum :=
  arithmetic (fun a b => if b = 0 then .error .operation else bounded (a / b)) wholeQuotient

/-- The remainder of a division of floating-point numbers, with the sign of the first. -/
def floatRemainder (x y : Float) : Float :=
  let quotient := x / y
  x - (if quotient < 0.0 then quotient.ceil else quotient.floor) * y

/-- The remainder of a division. -/
def remainder : Datum → Datum → Except Fault Datum :=
  arithmetic (fun a b => if b = 0 then .error .operation else bounded (a % b)) floatRemainder

/-- The number with the other sign. -/
def negate : Datum → Except Fault Datum
  | .float x => .ok (.float (-x))
  | .int n => bounded (-n)
  | _ => .error .operation

/-- Two values in print in a row. -/
def concatenate (a b : Datum) : Datum := .string (a.printed ++ b.printed)

end Datum

end Dispatch.Jinja
