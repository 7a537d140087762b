import GrammarForm.Form.Command

/-!
# Repeat groups

A repeated command is shown as a group with a counter.  The counter comes back with the submitted
values; a plus and a minus control change it by one, and it stays between zero and an upper bound.
Once there is an instance, the dependents of the command follow the instances.

## Main definitions

* `upperBound` : the greatest number of instances.
* `instanceCount` : the number of instances for the submitted values.
* `GroupForm` : a rendered group.
* `RenderContext.group` : the rendering of a repeated command.
-/

namespace GrammarForm

/-- The greatest number of instances: the maximum, or the cap for a negative maximum. -/
def upperBound (maximum cap : Int) : Int :=
  if maximum < 0 then cap else maximum

/-- The number that a submitted counter denotes; zero for any other text than a 64-bit
integer. -/
def submittedCount (submitted? : Option String) : Int :=
  let s := submitted?.getD ""
  if ValueKind.integer.accepts s then Decimal.signedValue s.toList else 0

/-- The number of instances for the submitted values: the submitted counter, one more for a plus,
one less for a minus, and kept between zero and the upper bound. -/
def instanceCount (digest : String → String) (state : FormState) (command : String) (path : Path)
    (maximum cap : Int) : Int :=
  let key := controlKey digest command path
  let count := submittedCount (state.get? (key .count))
  let count := if state.has (key .plus) then count + 1 else count
  let count := if state.has (key .minus) then count - 1 else count
  max 0 (min count (upperBound maximum cap))

/-- A rendered repeat group. -/
structure GroupForm where
  name : String
  path : Path
  explanation : String
  count : Int
  maximum : Int
  countKey : String
  plusKey : String
  minusKey : String
  canAdd : Bool
  canRemove : Bool
  instances : List CommandForm
  dependents : List CommandForm
deriving Repr

namespace GroupForm

/-- The number shown before the group. -/
def label (g : GroupForm) : String :=
  g.path.label

/-- The instances followed by the dependents. -/
def commands (g : GroupForm) : List CommandForm :=
  g.instances ++ g.dependents

/-- The lines of the group. -/
def lines (g : GroupForm) : List ConfigLine :=
  g.commands.map (·.line)

/-- The values a browser would submit for the group. -/
def fields (g : GroupForm) : List (String × String) :=
  (g.countKey, toString g.count) :: g.commands.flatMap (·.fields)

/-- Whether the controls of the group and the nodes of its commands have keys. -/
def hasKeys (g : GroupForm) : Bool :=
  Text.isEncodable g.name && g.commands.all (·.hasKeys)

/-- The form state of the group. -/
def formState (g : GroupForm) : FormState :=
  Entries.distinct g.fields

end GroupForm

namespace RenderContext

variable (ctx : RenderContext)

/-- The instances of a repeated command, numbered from one. -/
def instances (entry : LayoutCommand) (path : Path) (count : Nat) :
    List (CommandForm × List Notice) :=
  (List.range count).map fun (i : Nat) =>
    ctx.command { entry with repeatLimit := none } (path ++ [(i : Int) + 1])

/-- The dependents of a repeated command, numbered after its instances. -/
def dependents (entry : LayoutCommand) (path : Path) (count : Nat) :
    List (CommandForm × List Notice) :=
  if count = 0 then []
  else
    entry.dependents.mapIdx fun i name =>
      ctx.command { name := name, inline := true } (path ++ [(count : Int) + i + 1])

/-- The rendering of a repeated command at a path, with its notices. -/
def group (entry : LayoutCommand) (path : Path) : GroupForm × List Notice :=
  let maximum := entry.repeatLimit.getD 1
  let count := instanceCount ctx.digest ctx.state entry.name path maximum ctx.repeatCap
  let instances := ctx.instances entry path count.toNat
  let dependents := ctx.dependents entry path count.toNat
  ({ name := entry.name
     path
     explanation := ctx.grammar.repeatExplanation entry.name
     count
     maximum
     countKey := controlKey ctx.digest entry.name path .count
     plusKey := controlKey ctx.digest entry.name path .plus
     minusKey := controlKey ctx.digest entry.name path .minus
     canAdd := decide (count < upperBound maximum ctx.repeatCap)
     canRemove := decide (0 < count)
     instances := instances.map (·.1)
     dependents := dependents.map (·.1) },
    (instances ++ dependents).flatMap (·.2) ++ [.groupRendered entry.name path count])

end RenderContext

end GrammarForm
