import DiagramText.Yaml.Node
import DiagramText.Yaml.Timestamp

/-!
# Keys

The keys of a mapping are told apart by value: `Key.same`.  Truth values count as zero and one,
numbers are compared by value whatever their type, and moments with an offset as points of time.  A
result that is no number equals nothing, so such a key is the same only as the node that it is from.
-/

namespace DiagramText.Yaml

/-- The integer that a number equals, if there is one. -/
def Value.integer? : Value → Option Int
  | .bool b => some (if b then 1 else 0)
  | .int i => some i
  | .float x =>
    let bits := x.toBits.toNat
    let place := (bits >>> 52) % 2048
    let fraction := bits % (1 <<< 52)
    -- the absolute value is `m * 2 ^ q / 2 ^ 1074`
    let (m, q) := if place = 0 then (fraction, 0) else (fraction + (1 <<< 52), place - 1)
    if place = 2047 || (m <<< q) % (1 <<< 1074) ≠ 0 then none
    else
      let n : Int := ((m <<< q) >>> 1074 : Nat)
      some (if bits < 1 <<< 63 then n else -n)
  | _ => none

/-- Whether two moments are the same: with an offset on both sides as points of time, and without
one as they are written. -/
def Moment.same (a b : Moment) : Bool :=
  a.offset.isSome == b.offset.isSome && a.instant == b.instant

/-- Whether two values without parts are the same key. -/
def Value.same (a b : Value) : Bool :=
  match a.integer?, b.integer? with
  | some i, some j => i == j
  | none, none =>
    match a, b with
    | .null, .null => true
    | .nan, .nan => true
    | .float x, .float y => x == y
    | .str s, .str t => s == t
    | .bytes s, .bytes t => s == t
    | .date d, .date e => d == e
    | .moment m, .moment n => m.same n
    | _, _ => false
  | _, _ => false

/-- A key: the node that it is from, and its value. -/
structure Key where
  node : NodeId
  value : Value

/-- Whether two keys are the same. -/
def Key.same (a b : Key) : Bool := a.node == b.node || a.value.same b.value

instance : BEq Key := ⟨Key.same⟩

end DiagramText.Yaml
