import DocAudit.Text.Numbers

set_option autoImplicit false

namespace DocAudit.Text

structure CodePointSet where
  bounds : Array Nat

namespace CodePointSet

def ofSteps (steps : String) : CodePointSet :=
  let total := (numbers steps).foldl
    (fun (acc : Array Nat × Nat) step =>
      let bound := acc.2 + step.toNat
      (acc.1.push bound, bound))
    (#[], 0)
  ⟨total.1⟩

def rank (bounds : Array Nat) (n low high : Nat) : Nat :=
  if low < high then
    let middle := low + (high - low) / 2
    match bounds[middle]? with
    | some bound =>
      if bound ≤ n then rank bounds n (middle + 1) high else rank bounds n low middle
    | none => low
  else low
termination_by high - low

def contains (set : CodePointSet) (n : Nat) : Bool :=
  rank set.bounds n 0 set.bounds.size % 2 == 1

def rangeCount (set : CodePointSet) : Nat := set.bounds.size / 2

end CodePointSet

end DocAudit.Text
