import CoopKernel.Config.AppFile
import CoopKernel.Config.Handoff
import CoopKernel.Config.Resolve
import CoopKernel.Config.TableText

/-! # The build step

Before the kernel is compiled, its table is written from a configuration: one that is handed over
comes first, then one that is resolved from an application file. Without either there is no table,
which is no error. The step also tells the build what its outcome depends on.
-/

namespace CoopKernel

/-- What the step finds around it. -/
structure Surroundings where
  /-- A configuration that is handed over. -/
  handoff : Option String
  /-- The path of an application file. -/
  appFile : Option String
  /-- The text of a file that can be read. -/
  textOf : String → Option String
  /-- Whether there is a place for the table. -/
  hasOutput : Bool

/-- Why the step failed. -/
inductive BuildError where
  | badHandoff
  | unreadable (path : String)
  | badAppFile (path : String)
  | unresolved (path : String) (cause : ResolveError)
  | noOutput
deriving DecidableEq, Repr, Inhabited

namespace BuildError

def message : BuildError → String
  | badHandoff => "parsing MOTH_KCONFIG as RON"
  | unreadable path => "reading " ++ path
  | badAppFile path => "parsing " ++ path
  | unresolved path _ => "resolving " ++ path
  | noOutput => "OUT_DIR not set"

/-- Why it failed, where that is known. -/
def causes : BuildError → List String
  | unresolved _ cause => cause.causes
  | _ => []

end BuildError

namespace Surroundings

def resolveFile (around : Surroundings) (path : String) : Except BuildError KernelConfig :=
  match around.textOf path with
  | none => .error (.unreadable path)
  | some text =>
      match App.ofToml? text with
      | none => .error (.badAppFile path)
      | some app => app.resolve.mapError (.unresolved path)

/-- The configuration to build with, if there is one. -/
def config (around : Surroundings) : Except BuildError (Option KernelConfig) :=
  match around.handoff, around.appFile with
  | some text, _ =>
      match KernelConfig.ofRon? text with
      | some config => .ok (some config)
      | none => .error .badHandoff
  | none, some path => (around.resolveFile path).map some
  | none, none => .ok none

/-- The text of the table, if there is one to write. -/
def table (around : Surroundings) : Except BuildError (Option String) := do
  match ← around.config with
  | none => return none
  | some config => if around.hasOutput then return some config.tableText else .error .noOutput

/-- What the step tells the build. -/
def directives (around : Surroundings) : List String :=
  ["cargo:rustc-check-cfg=cfg(moth_kconfig)",
    "cargo:rerun-if-env-changed=MOTH_KCONFIG",
    "cargo:rerun-if-env-changed=MOTH_APP_TOML"] ++
  (match around.handoff, around.appFile with
    | none, some path => ["cargo:rerun-if-changed=" ++ path]
    | _, _ => []) ++
  (match around.table with
    | .ok (some _) => ["cargo:rustc-cfg=moth_kconfig"]
    | _ => [])

end Surroundings

end CoopKernel
