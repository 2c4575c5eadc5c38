import JuceBuild.Xml.Node

/-!
# Exporters and configurations

An exporter describes the project for one development environment: where its files go, where it
finds modules, and its build configurations.
-/

namespace JuceBuild

structure Configuration where
  node : Xml.Node
  deriving Repr

namespace Configuration

def name (configuration : Configuration) : String := configuration.node.attributeD "name"

/-- Header search paths, one a line, from the exporter's target folder. -/
def headerPath (configuration : Configuration) : String :=
  configuration.node.attributeD "headerPath"

def osxSdk (configuration : Configuration) : String := configuration.node.attributeD "osxSDK"

/-- The oldest macOS to run on. -/
def osxCompatibility (configuration : Configuration) : String :=
  configuration.node.attributeD "osxCompatibility"

end Configuration

/-- The description of a project for one development environment. -/
structure Exporter where
  node : Xml.Node
  deriving Repr

namespace Exporter

def tag (exporter : Exporter) : String := exporter.node.tag

/-- Where generated files go, from the project's directory. -/
def targetFolder (exporter : Exporter) : String := exporter.node.attributeD "targetFolder"

def vst3Folder (exporter : Exporter) : String := exporter.node.attributeD "vst3Folder"

/-- Module paths that nodes declare, the first for each module. -/
def declaredPaths (nodes : List Xml.Node) : List (String × String) :=
  nodes.foldl (fun paths node =>
    match node.attribute? "id" with
    | none => paths
    | some id =>
      if (paths.lookup id).isSome then paths else paths ++ [(id, node.attributeD "path")]) []

/-- Where the exporter finds modules: module ids and paths from the project's directory. -/
def modulePaths (exporter : Exporter) : List (String × String) :=
  declaredPaths (exporter.node.childrenOf "MODULEPATHS")

def configurations (exporter : Exporter) : List Configuration :=
  (exporter.node.childrenOf "CONFIGURATIONS").map (⟨·⟩)

end Exporter

end JuceBuild
