import Tron.Project.Plan

/-! # Projects

A project is a directory with a descriptor and a first source file, and the
toolchain installed below it.
-/

namespace Tron
namespace Project

/-- The file that describes a project. -/
def descriptorName : String := "tron.toml"

/-- The file that a project's program starts in. -/
def entryName : String := "main.tron"

def descriptor : String :=
  "name = \"TronProject\"\n" ++
  "entry = \"main\"\n" ++
  "version = \"0.0.1\"\n" ++
  "authors = \"YOU\"\n" ++
  "license = \"MIT\"\n" ++
  "decor = \"default\"\n" ++
  "pointer = \"default\"\n" ++
  "env = \"prod\"\n" ++
  "experimental = \"false\"\n" ++
  "credits = \"false\"\n" ++
  "warnings = \"true\"\n"

def entrySource : String := "print \"Hello, World!\";\n"

def toolchainPackage : String := "tron-lang"

/-- Where the toolchain lies in a project. -/
def toolchainDirectory : Path := ⟨.here, ["node_modules", toolchainPackage]⟩

inductive Verb where
  | create
  | build
  | start
  deriving Repr, DecidableEq

def toolchainIn (project : Path) : Path := project.below toolchainDirectory.names

/-- What is to be done for a verb on a project's directory. -/
def plan (project : Path) : Verb → Plan
  | .create =>
    [.makeDirectory project,
      .write (project.below [descriptorName]) descriptor,
      .write (project.below [entryName]) entrySource,
      .say s!"Created {descriptorName} and {entryName} in {project.text}",
      .call ⟨["npm", "install", toolchainPackage], project⟩]
  | .build => [.call ⟨["cargo", "build"], toolchainIn project⟩]
  | .start => [.call ⟨["cargo", "run"], toolchainIn project⟩]

end Project
end Tron
