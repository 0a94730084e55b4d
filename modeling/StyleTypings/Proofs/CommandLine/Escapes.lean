import StyleTypings.Proofs.CommandLine.Elsewhere
import StyleTypings.Proofs.Keys.Collected

/-!
# Failures that end the program

A resource fails in a way that is not contained for one of two reasons only. It has no declaration
whose path the system takes, or a file that it depends on is no text. That is its compiled module,
and where declarations are checked also its declaration. Bytes of a declaration that are no text do
no harm where declarations are written, because such a declaration is written anew. A compiled
module may also have a path that the system does not take.
-/

namespace StyleTypings

variable {disk : Disk} {path declaration : Path} {bad : PathFault} {cause : Failure}
  {options : Options} {compiled : Option Path} {resource content : Text} {plan : Plan}

/-! ## What keeps the program from going on -/

namespace Plan

end Plan

/-! ## One resource -/

namespace CommandLine

/-- A resource with a name has a plan as soon as the mode is one of the two. -/
theorem exists_plan {mode : Mode} (hd : (Path.ofText resource).declaration? = some declaration)
    (hm : options.mode = mode.text) (content : Text) :
    ∃ plan, Request.plan { content, resource, options } = .ok plan ∧
      plan.mode = mode ∧ plan.declaration = declaration := by
  obtain ⟨-, found, hf, -⟩ := Extraction.exists_finds_defaults content
  exact ⟨_, Request.plan_of_select hm hd hf, rfl, rfl⟩

end CommandLine

end StyleTypings
