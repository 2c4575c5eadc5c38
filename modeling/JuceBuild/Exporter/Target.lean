import JuceBuild.Exporter.SearchPath
import JuceBuild.Project.Basic
import JuceBuild.Script.Block
import JuceBuild.Script.Setting

/-!
# Export targets

The development environments that a script can describe, in the order in which it does, and the
calls that describe a project for one of them.
-/

namespace JuceBuild

/-- The macOS SDKs that can be selected, the oldest first. -/
def osxSdks : List String :=
  ["10.5 SDK", "10.6 SDK", "10.7 SDK", "10.8 SDK", "10.9 SDK", "10.10 SDK", "10.11 SDK",
    "10.12 SDK"]

/-- A name without the four characters of its suffix ` SDK`. -/
def sdkVersion (sdk : String) : String :=
  String.ofList (sdk.toList.take (sdk.toList.length - " SDK".toList.length))

/-- The line that selects a macOS SDK, by its name or by its version alone. -/
def osxSdkLine (tag value : String) (versionOnly : Bool) : String :=
  if value = "default" then tag ++ " \"Use Default\""
  else if value ∈ osxSdks then
    tag ++ " \"" ++ (if versionOnly then sdkVersion value else value) ++ "\""
  else "# " ++ tag

/-- A development environment: the tag of its exporters, the name it is shown by, the VST3 SDK
folder it falls back to, and whether its configurations select a macOS SDK. -/
structure ExportTarget where
  tag : String
  displayName : String
  defaultVst3Folder : String
  selectsOsxSdk : Bool
  deriving DecidableEq, Repr

namespace ExportTarget

/-- An environment with nothing of its own. -/
def plain : ExportTarget := ⟨"base", "", "", false⟩

def xcodeMac : ExportTarget := ⟨"XCODE_MAC", "Xcode (MacOSX)", "~/SDKs/VST_SDK/VST3_SDK", true⟩

def visualStudio2015 : ExportTarget :=
  ⟨"VS2015", "Visual Studio 2015", "c:\\SDKs\\VST_SDK\\VST3_SDK", false⟩

def visualStudio2013 : ExportTarget :=
  ⟨"VS2013", "Visual Studio 2013", "c:\\SDKs\\VST_SDK\\VST3_SDK", false⟩

/-- The environments in the order in which a script describes them. -/
def all : List ExportTarget := [xcodeMac, visualStudio2015, visualStudio2013]

def find? (tag : String) : Option ExportTarget := all.find? (·.tag = tag)

/-- Whether a project hosts VST3 plug-ins, so that its targets need the VST3 SDK. -/
def hostsVst3 (project : Project) : Bool :=
  project.hasModule "juce_audio_processors" &&
    project.options.lookup "JUCE_PLUGINHOST_VST3" = some "enabled"

def vst3Folder (target : ExportTarget) (exporter : Exporter) : String :=
  if exporter.vst3Folder = "" then target.defaultVst3Folder else exporter.vst3Folder

def targetCall (target : ExportTarget) (project : Project) (exporter : Exporter) : Block :=
  ⟨"jucer_export_target(",
    ("\"" ++ target.displayName ++ "\"") ::
      ((if hostsVst3 project then
          ["VST3_SDK_FOLDER \"" ++ Text.escapePath (target.vst3Folder exporter) ++ "\""]
        else []) ++
        [Setting.ofText exporter.node "EXTRA_PREPROCESSOR_DEFINITIONS" "extraDefs",
          Setting.ofText exporter.node "EXTRA_COMPILER_FLAGS" "extraCompilerFlags"])⟩

def searchPathLine (cwd : Place) (project : Project) (exporter : Exporter)
    (configuration : Configuration) : String :=
  if configuration.headerPath = "" then Setting.placeholder "HEADER_SEARCH_PATHS"
  else
    let paths := SearchPath.fromDirectory cwd configuration.headerPath project.directory
      exporter.targetFolder
    "HEADER_SEARCH_PATHS \"" ++ Text.escapePath (Text.join "\n" paths) ++ "\""

def osxSdkLines (target : ExportTarget) (configuration : Configuration) : List String :=
  if target.selectsOsxSdk then
    [osxSdkLine "OSX_BASE_SDK_VERSION" configuration.osxSdk false,
      osxSdkLine "OSX_DEPLOYMENT_TARGET" configuration.osxCompatibility true]
  else []

def configurationCall (target : ExportTarget) (cwd : Place) (project : Project)
    (exporter : Exporter) (configuration : Configuration) : Block :=
  ⟨"jucer_export_target_configuration(",
    ("\"" ++ target.displayName ++ "\"") ::
      ("NAME \"" ++ configuration.name ++ "\"") ::
      searchPathLine cwd project exporter configuration ::
      Setting.ofText configuration.node "PREPROCESSOR_DEFINITIONS" "defines" ::
      target.osxSdkLines configuration⟩

def calls (target : ExportTarget) (cwd : Place) (project : Project) (exporter : Exporter) :
    List Block :=
  target.targetCall project exporter ::
    exporter.configurations.map (target.configurationCall cwd project exporter)

end ExportTarget

namespace Project

/-- The environments a project has an exporter for, each with the first such exporter. -/
def presentExporters (project : Project) : List (ExportTarget × Exporter) :=
  ExportTarget.all.filterMap fun target => (project.exporter? target.tag).map (target, ·)

/-- The tags of the exporters for which there is no environment. -/
def skippedExporters (project : Project) : List String :=
  (project.exporters.filter fun exporter => (ExportTarget.find? exporter.tag).isNone).map (·.tag)

def exporterCalls (project : Project) (cwd : Place) : List Block :=
  project.presentExporters.flatMap fun (target, exporter) => target.calls cwd project exporter

end Project

end JuceBuild
