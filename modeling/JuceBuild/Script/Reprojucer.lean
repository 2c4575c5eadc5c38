import JuceBuild.Exporter.Target
import JuceBuild.FileGroup
import JuceBuild.Module.Reference
import JuceBuild.Text.Identifier

/-!
# Reprojucer scripts

A script that hands a project over to the Reprojucer functions: a preamble, the inclusion of the
functions, a check of the variable that holds the project's file, and one call for each part of the
project. The sections before the first call are followed by two empty lines, each call by one.
-/

namespace JuceBuild

/-- A script with the parts of the project that it was made from. -/
structure ReprojucerScript where
  fileGroups : List FileGroup
  modules : List ModuleReference
  exporters : List String
  lines : List String
  deriving DecidableEq, Repr

namespace ReprojucerScript

def text (script : ReprojucerScript) : String := Text.join "\n" script.lines ++ "\n"

def variableReference (name : String) : String := "$\x7b" ++ name ++ "\x7d"

/-- The variable that holds the path of a project's file. -/
def fileVariable (project : Project) : String := Text.identifier project.fileName ++ "_FILE"

def preamble (project : Project) : List String :=
  ["# This file was generated by Jucer2CMake from " ++ project.fileName, "",
    "cmake_minimum_required(VERSION 3.4)", "", ""]

/-- The way from the output directory to the directory of the Reprojucer file, with forward
slashes. -/
def includeDirectory (cwd : Place) (reprojucer : Path) (outputDirectory? : Option Path) : String :=
  let output :=
    match outputDirectory? with
    | none => cwd
    | some path => path.collapse cwd
  let route := routeText (Place.route output (reprojucer.parent.collapse cwd))
  String.ofList (route.toList.map fun c => if c = '\\' then '/' else c)

def inclusion (directory : String) : List String :=
  ["list(APPEND CMAKE_MODULE_PATH \"" ++ variableReference "CMAKE_CURRENT_LIST_DIR" ++ "/" ++
      directory ++ "\")",
    "include(Reprojucer)", "", ""]

def fileCheck (name : String) : List String :=
  ["if(NOT DEFINED " ++ name ++ ")",
    "  message(FATAL_ERROR \"" ++ name ++ " must be defined\")",
    "endif()", "",
    "get_filename_component(" ++ name,
    "  \"" ++ variableReference name ++ "\" ABSOLUTE",
    "  BASE_DIR \"" ++ variableReference "CMAKE_BINARY_DIR" ++ "\"",
    ")", "", ""]

def beginCall (project : Project) : Block :=
  ⟨"jucer_project_begin(",
    ["PROJECT_FILE \"" ++ variableReference (fileVariable project) ++ "\"",
      Setting.ofText project.root "PROJECT_ID" "id"]⟩

def settingsCall (project : Project) : Block :=
  ⟨"jucer_project_settings(",
    [Setting.ofText project.root "PROJECT_NAME" "name",
      Setting.ofText project.root "PROJECT_VERSION" "version",
      Setting.ofText project.root "COMPANY_NAME" "companyName",
      Setting.ofText project.root "COMPANY_WEBSITE" "companyWebsite",
      Setting.ofText project.root "COMPANY_EMAIL" "companyEmail",
      "PROJECT_TYPE \"" ++ project.kindDescription ++ "\"",
      Setting.ofText project.root "BUNDLE_IDENTIFIER" "bundleIdentifier",
      "BINARYDATACPP_SIZE_LIMIT \"Default\"",
      Setting.ofText project.root "BINARYDATA_NAMESPACE" "binaryDataNamespace",
      Setting.ofText project.root "PREPROCESSOR_DEFINITIONS" "defines"]⟩

/-- How an attribute becomes an argument line. -/
inductive SettingForm where
  | text
  | switch
  deriving DecidableEq, Repr

/-- The settings of audio plug-ins: tag, attribute and form. -/
def pluginSettings : List (String × String × SettingForm) := [
  ("BUILD_VST", "buildVST", .switch),
  ("BUILD_AUDIOUNIT", "buildAU", .switch),
  ("PLUGIN_NAME", "pluginName", .text),
  ("PLUGIN_DESCRIPTION", "pluginDesc", .text),
  ("PLUGIN_MANUFACTURER", "pluginManufacturer", .text),
  ("PLUGIN_MANUFACTURER_CODE", "pluginManufacturerCode", .text),
  ("PLUGIN_CODE", "pluginCode", .text),
  ("PLUGIN_CHANNEL_CONFIGURATIONS", "pluginChannelConfigs", .text),
  ("PLUGIN_IS_A_SYNTH", "pluginIsSynth", .switch),
  ("PLUGIN_MIDI_INPUT", "pluginWantsMidiIn", .switch),
  ("PLUGIN_MIDI_OUTPUT", "pluginProducesMidiOut", .switch),
  ("MIDI_EFFECT_PLUGIN", "pluginIsMidiEffectPlugin", .switch),
  ("KEY_FOCUS", "pluginEditorRequiresKeys", .switch),
  ("PLUGIN_AU_EXPORT_PREFIX", "pluginAUExportPrefix", .text),
  ("PLUGIN_AU_MAIN_TYPE", "pluginAUMainType", .text),
  ("VST_CATEGORY", "pluginVSTCategory", .text)]

def pluginLine (node : Xml.Node) :
    String × String × SettingForm → Except Text.OversizedNumeral String
  | (tag, name, .text) => .ok (Setting.ofText node tag name)
  | (tag, name, .switch) => Setting.ofSwitch node tag name

/-- The call with the settings of an audio plug-in; other projects have none. -/
def pluginCalls (project : Project) : Except Text.OversizedNumeral (List Block) :=
  if project.kind? = some .audioPlugin then
    (pluginSettings.mapM (pluginLine project.root)).map
      fun lines => [⟨"jucer_audio_plugin_settings(", lines⟩]
  else .ok []

/-- The script of a project, for functions that are found next to a Reprojucer file. -/
def ofProject (store : FileStore) (project : Project) (reprojucer : Path)
    (outputDirectory? : Option Path) : Except Failure ReprojucerScript := do
  let mainGroup? ← project.mainGroup?.mapError .oversizedNumeral
  let fileGroups := FileGroup.ofGroup? mainGroup?
  let modules ←
    ModuleReference.resolveAll store project.moduleIds project.modulePaths project.directory
  let pluginCalls ← (pluginCalls project).mapError .oversizedNumeral
  let firstCalls := beginCall project :: settingsCall project :: pluginCalls
  let lastCalls :=
    modules.map (·.call project.options) ++ project.exporterCalls store.cwd
  return {
    fileGroups
    modules
    exporters := project.presentExporters.map (·.1.displayName)
    lines :=
      preamble project ++
        inclusion (includeDirectory store.cwd reprojucer outputDirectory?) ++
        fileCheck (fileVariable project) ++
        firstCalls.flatMap Block.lines ++
        fileGroups.flatMap FileGroup.lines ++
        lastCalls.flatMap Block.lines ++
        ["jucer_project_end()"] }

end ReprojucerScript

end JuceBuild
