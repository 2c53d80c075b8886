import BringUp.Fault

/-!
# Link arguments of the image

Only the image for the bare machine is laid out by the linker script; a build for a host links as
usual. Either way a change of the script asks for a new build.
-/

namespace BringUp.Boot

set_option autoImplicit false

def setting : Option String → Except Fault String
  | some value => .ok value
  | none => .error .settingUnset

/-- The lines for the build tool, from the target's operating system and the project folder. -/
def linkArguments (targetOs manifestDir : Option String) : Except Fault (List String) := do
  let os ← setting targetOs
  let dir ← setting manifestDir
  let script := dir ++ "/linker.ld"
  let layout := if os = "none" then ["cargo:rustc-link-arg-bins=-T" ++ script] else []
  return layout ++ ["cargo:rerun-if-changed=" ++ script]

end BringUp.Boot
