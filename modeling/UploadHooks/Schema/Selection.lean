import UploadHooks.Schema.Config

/-!
# Choosing a definition

Metadata is checked against one definition of a configuration. A single
definition is always the one. Among several, a requested version picks
the first definition that denotes it, and without a request the first of
those with the least version is taken; definitions without a readable
version only count when there is no other.
-/

namespace UploadHooks

namespace Schema

inductive SelectionFault where
  | versionUnavailable (requested : String) (available : List String)
  | noDefinitions
  deriving DecidableEq, Repr

/-- Whether the definition's version denotes the wanted one. -/
def Definition.answers (wanted : Version) (d : Definition) : Bool :=
  match d.parsedVersion? with
  | some v => Version.same v wanted
  | none => false

/-- The first definition of the requested version. -/
def findVersion? (requested : String) (definitions : List Definition) : Option Definition :=
  match Version.parse requested with
  | .ok wanted => definitions.find? (Definition.answers wanted)
  | .error _ => none

/-- The version texts as they are written, in document order. -/
def availableVersions (definitions : List Definition) : List String :=
  definitions.filterMap (·.version)

/-- The first definition with the least version, together with that
version. -/
def oldest? : List Definition → Option (Version × Definition)
  | [] => none
  | d :: rest =>
    match d.parsedVersion?, oldest? rest with
    | none, best => best
    | some v, none => some (v, d)
    | some v, some (w, e) => if Version.compare w v = .lt then some (w, e) else some (v, d)

/-- The definition to use when none is requested. -/
def defaultDefinition? (definitions : List Definition) : Option Definition :=
  match oldest? definitions with
  | some (_, d) => some d
  | none => definitions.head?

def Config.select (config : Config) (requested : Option String) :
    Except SelectionFault Definition :=
  match config, requested with
  | .single d, _ => .ok d
  | .versioned ds, some requested =>
    match findVersion? requested ds with
    | some d => .ok d
    | none => .error (.versionUnavailable requested (availableVersions ds))
  | .versioned ds, none =>
    match defaultDefinition? ds with
    | some d => .ok d
    | none => .error .noDefinitions

end Schema

end UploadHooks
