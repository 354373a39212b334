import StreamRelay.Fault.Basic

/-!
# Trails of causes

Faults point at their causes, and nothing keeps such a chain from coming back to a fault or from
going on for ever. A trail is what a walk along it visits: each fault once, and at most `maxDepth`
of them.

Main statements: a walk never visits a fault twice (`nodup_walkFrom`) and never more than it may
(`length_walkFrom_le`).
-/

namespace StreamRelay

/-- Faults and their causes, each known by an identity of type `ι`. -/
structure Causes (ι : Type) where
  fault : ι → Fault
  cause : ι → Option ι

/-- Where a fault is kept and which sort of fault is kept there. A fault that holds its cause within
itself shares its place with it, yet the two differ in sort. -/
structure Identity where
  place : Nat
  sort : Nat
deriving DecidableEq, Repr

namespace Causes

variable {ι : Type}

/-- The number of faults that a walk visits at most. -/
def maxDepth : Nat := 64

/-- The identities that a walk visits from `next` on, if it may visit `room` more of them and has
been at those of `seen`. -/
def walkFrom [DecidableEq ι] (c : Causes ι) : Nat → List ι → Option ι → List ι
  | 0, _, _ => []
  | _ + 1, _, none => []
  | room + 1, seen, some i =>
    if i ∈ seen then [] else i :: walkFrom c room (i :: seen) (c.cause i)

/-- The identities that a walk visits from `i` on. -/
def walk [DecidableEq ι] (c : Causes ι) (i : ι) : List ι := c.walkFrom maxDepth [] (some i)

/-- The faults that a walk visits from `i` on. -/
def trail [DecidableEq ι] (c : Causes ι) (i : ι) : List Fault := (c.walk i).map c.fault

/-- One more fault in front of the fault `i` and its causes. -/
def wrap (c : Causes ι) (f : Fault) (i : ι) : Causes (Option ι) where
  fault
    | none => f
    | some j => c.fault j
  cause
    | none => some (some i)
    | some j => (c.cause j).map some

/-- A walk visits no more faults than it may. -/
theorem length_walkFrom_le [DecidableEq ι] (c : Causes ι) (room : Nat) (seen : List ι)
    (next : Option ι) : (c.walkFrom room seen next).length ≤ room := by
  fun_induction walkFrom c room seen next with
  | case1 => simp
  | case2 => simp
  | case3 => simp
  | case4 room seen i _ ih =>
    simp only [List.length_cons]
    omega

/-- A walk does not come back to where it has been. -/
theorem not_mem_walkFrom [DecidableEq ι] (c : Causes ι) {room : Nat} {seen : List ι}
    {next : Option ι} {j : ι} (mem : j ∈ seen) : j ∉ c.walkFrom room seen next := by
  fun_induction walkFrom c room seen next with
  | case1 => simp
  | case2 => simp
  | case3 => simp
  | case4 room seen i h ih =>
    simp only [List.mem_cons, not_or]
    exact ⟨fun e => h (e ▸ mem), ih (by simp [mem])⟩

/-- A walk visits no fault twice. -/
theorem nodup_walkFrom [DecidableEq ι] (c : Causes ι) (room : Nat) (seen : List ι)
    (next : Option ι) : (c.walkFrom room seen next).Nodup := by
  fun_induction walkFrom c room seen next with
  | case1 => simp
  | case2 => simp
  | case3 => simp
  | case4 room seen i h ih => exact List.nodup_cons.2 ⟨c.not_mem_walkFrom (by simp), ih⟩

end Causes

/-- A fault together with its causes. -/
structure Trouble where
  causes : Causes Identity
  first : Identity

namespace Trouble

/-- A fault of a chain, and whether it is kept within the fault before it. -/
structure Link where
  fault : Fault
  inside : Bool := false

/-- The identities of the links of a chain, the first of which is kept at `place`. -/
def identities : Identity → List Link → List Identity
  | _, [] => []
  | prev, l :: links =>
    let i : Identity := if l.inside then ⟨prev.place, prev.sort + 1⟩ else ⟨prev.place + 1, 0⟩
    i :: identities i links

/-- What follows the first occurrence of an element in a list. -/
def successor (i : Identity) : List Identity → Option Identity
  | [] => none
  | j :: rest => if i = j then rest.head? else successor i rest

/-- A chain of faults, each of which is the cause of the one before it. With `back`, the last is in
its turn caused by the fault at that index. -/
def ofLinks (links : List Link) (back : Option Nat) : Trouble :=
  let ids := identities ⟨0, 0⟩ links
  { causes.fault := fun i =>
      ((ids.zip links).find? (·.1 = i)).elim (.plain "") (·.2.fault)
    causes.cause := fun i =>
      if ids.getLast? = some i then back.bind (ids[·]?) else successor i ids
    first := ids.headD ⟨0, 0⟩ }

/-- A chain of faults of their own, each of which is the cause of the one before it. -/
def ofFaults (faults : List Fault) : Trouble := ofLinks (faults.map ({ fault := · })) none

/-- The faults that a walk along the causes visits. -/
def trail (t : Trouble) : List Fault := t.causes.trail t.first

/-- The faults that a walk visits which starts at one more fault put in front. -/
def trailBehind (f : Fault) (t : Trouble) : List Fault := (t.causes.wrap f t.first).trail none

end Trouble

end StreamRelay
