import JuceBuild.Project.Basic

/-!
# Scripts for JUCE 6

A script that needs nothing but an installed JUCE 6: it declares one target with the command for
the project's kind.
-/

namespace JuceBuild.Juce6Script

def minimumVersion (project : Project) : String :=
  if project.kind? = some .audioPlugin then "3.15" else "3.12"

/-- The version of a project, with a default if it has none. -/
def versionOf (project : Project) : String :=
  if project.version = "" then "1.0.0" else project.version

def formatLines (project : Project) : List String :=
  if project.kind? = some .audioPlugin then ["  FORMATS \"AU\" \"VST3\" \"Standalone\""] else []

/-- The lines of a script that adds its target with a command. -/
def lines (project : Project) (addCommand : String) : List String :=
  ["",
    "cmake_minimum_required(VERSION " ++ minimumVersion project ++ ")",
    "",
    "project(\"" ++ project.name ++ "\")",
    "", "",
    "find_package(JUCE CONFIG REQUIRED)",
    "", "",
    addCommand ++ "(" ++ project.name,
    "  VERSION \"" ++ versionOf project ++ "\""] ++
    formatLines project ++
    [")",
      "",
      "juce_generate_juce_header(" ++ project.name ++ ")"]

def ofProject (project : Project) : Except Failure String :=
  match project.kind?.bind ProjectKind.addCommand? with
  | none => .error (.unsupportedKind project.kindName)
  | some addCommand => .ok (Text.join "\n" (lines project addCommand) ++ "\n")

end JuceBuild.Juce6Script
