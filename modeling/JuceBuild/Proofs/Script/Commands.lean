import JuceBuild.Proofs.Outcome
import JuceBuild.Proofs.Script.Lines
import JuceBuild.Script.Reprojucer

/-!
# The commands of a script

What a reader finds in each part of a script, said from the project and not from the text: a setting
is its tag and its value, or nothing if the project does not have it, and every call is the name of
a command with the arguments of its settings in their order. Texts appear here as the project has
them; what is escaped in the script is plain again.
-/

namespace JuceBuild

open Script

/-! ### Settings -/

namespace Setting

/-- The arguments of a tag with a text; an empty text counts as absent. -/
def textArguments (tag : String) (value? : Option String) : List String :=
  match value? with
  | none => []
  | some value => if value = "" then [] else [tag, value]

def switchArguments (tag : String) (value? : Option String) : List String :=
  match value? with
  | none => []
  | some value =>
    match Text.leadingInt value with
    | .error _ => []
    | .ok n => [tag, if n = 0 then "OFF" else "ON"]

variable {tag : String}

theorem readsLine_textLine (htag : IsWord tag) (value? : Option String) :
    ReadsLine (textLine tag value?) (textArguments tag value?) := by
  cases value? with
  | none => exact readsLine_placeholder htag.notMem_newline
  | some value =>
      rw [textLine, textArguments]
      split
      · exact readsLine_placeholder htag.notMem_newline
      · exact (readsArguments_tagged rfl htag (quotes_escapeString value)).line

theorem readsLine_ofText (node : Xml.Node) (htag : IsWord tag) (name : String) :
    ReadsLine (ofText node tag name) (textArguments tag (node.attribute? name)) :=
  readsLine_textLine htag _

theorem readsLine_switchLine (htag : IsWord tag) {value? : Option String} {line : String}
    (hline : switchLine tag value? = .ok line) : ReadsLine line (switchArguments tag value?) := by
  cases value? with
  | none =>
      cases hline
      exact readsLine_placeholder htag.notMem_newline
  | some value =>
      rw [switchLine] at hline
      obtain ⟨n, hn, rfl⟩ := map_eq_ok_iff.mp hline
      simp only [switchArguments, hn]
      have hon :=
        (readsArguments_word htag).space (readsArguments_word (show IsWord "ON" by decide))
      have hoff :=
        (readsArguments_word htag).space (readsArguments_word (show IsWord "OFF" by decide))
      rw [String.append_assoc] at hon hoff
      split
      · exact hoff.line
      · exact hon.line

end Setting

/-! ### The project -/

namespace ReprojucerScript

/-- The variable that holds the project's file has a name that is a word, whatever the file is
called. -/
theorem isWord_fileVariable (project : Project) : IsWord (fileVariable project) := by
  refine ⟨?_, fun c hc => ?_⟩
  · intro hempty
    have hlength := congrArg String.length hempty
    simp [fileVariable] at hlength
  · rw [fileVariable, String.toList_append, List.mem_append, Text.identifier,
      String.toList_ofList, List.mem_map] at hc
    rcases hc with ⟨d, -, rfl⟩ | hc
    · rw [Text.identifierChar]
      split
      · rename_i halphanum
        exact isPlain_of_special (p := Char.isAlphanum) (by decide) halphanum
      · decide
    · have hsuffix : IsWord "_FILE" := by decide
      exact hsuffix.2 c hc

theorem unescaped_variableReference {name : String} (hname : IsWord name) :
    Text.Unescaped (variableReference name) := by
  rw [variableReference]
  exact (Text.Unescaped.append (by decide) hname.unescaped).append (by decide)

def beginCommand (project : Project) : Command where
  name := "jucer_project_begin"
  arguments := [
    ["PROJECT_FILE", variableReference (fileVariable project)],
    Setting.textArguments "PROJECT_ID" (project.root.attribute? "id")].flatten

theorem readsBlock_beginCall (project : Project) :
    ReadsBlock (beginCall project) (beginCommand project) := by
  have hfile := quotes_of_unescaped (unescaped_variableReference (isWord_fileVariable project))
  refine readsBlock_of_body rfl (by decide) (.cons ?_ (.cons ?_ .nil))
  · exact (readsArguments_tagged rfl (by decide) hfile).line
  · exact Setting.readsLine_ofText project.root (by decide) "id"

def settingsCommand (project : Project) : Command where
  name := "jucer_project_settings"
  arguments := [
    Setting.textArguments "PROJECT_NAME" (project.root.attribute? "name"),
    Setting.textArguments "PROJECT_VERSION" (project.root.attribute? "version"),
    Setting.textArguments "COMPANY_NAME" (project.root.attribute? "companyName"),
    Setting.textArguments "COMPANY_WEBSITE" (project.root.attribute? "companyWebsite"),
    Setting.textArguments "COMPANY_EMAIL" (project.root.attribute? "companyEmail"),
    ["PROJECT_TYPE", project.kindDescription],
    Setting.textArguments "BUNDLE_IDENTIFIER" (project.root.attribute? "bundleIdentifier"),
    ["BINARYDATACPP_SIZE_LIMIT", "Default"],
    Setting.textArguments "BINARYDATA_NAMESPACE" (project.root.attribute? "binaryDataNamespace"),
    Setting.textArguments "PREPROCESSOR_DEFINITIONS" (project.root.attribute? "defines")].flatten

theorem unescaped_kindDescription (project : Project) :
    Text.Unescaped project.kindDescription := by
  rw [Project.kindDescription]
  split
  · decide
  · rename_i kind _
    cases kind <;> decide

theorem readsBlock_settingsCall (project : Project) :
    ReadsBlock (settingsCall project) (settingsCommand project) := by
  have hsetting {tag : String} (htag : IsWord tag) (name : String) :=
    Setting.readsLine_ofText project.root htag name
  have hkind := quotes_of_unescaped (unescaped_kindDescription project)
  have hlimit : Quotes "Default" "Default" := quotes_of_unescaped (by decide)
  refine readsBlock_of_body rfl (by decide) ?_
  refine .cons (hsetting (by decide) _) (.cons (hsetting (by decide) _) ?_)
  refine .cons (hsetting (by decide) _) (.cons (hsetting (by decide) _) ?_)
  refine .cons (hsetting (by decide) _) (.cons ?_ ?_)
  · exact (readsArguments_tagged rfl (by decide) hkind).line
  refine .cons (hsetting (by decide) _) (.cons ?_ ?_)
  · exact (readsArguments_tagged rfl (by decide) hlimit).line
  exact .cons (hsetting (by decide) _) (.cons (hsetting (by decide) _) .nil)

def pluginArguments (node : Xml.Node) : String × String × SettingForm → List String
  | (tag, name, .text) => Setting.textArguments tag (node.attribute? name)
  | (tag, name, .switch) => Setting.switchArguments tag (node.attribute? name)

/-- The command with the settings of an audio plug-in; other projects have none. -/
def pluginCommands (project : Project) : List Command :=
  if project.kind? = some .audioPlugin then
    [⟨"jucer_audio_plugin_settings", (pluginSettings.map (pluginArguments project.root)).flatten⟩]
  else []

theorem isWord_of_mem_pluginSettings :
    ∀ setting ∈ pluginSettings, IsWord setting.1 := by decide

theorem readsLine_pluginLine {node : Xml.Node} {setting : String × String × SettingForm}
    {line : String} (hsetting : IsWord setting.1) (hline : pluginLine node setting = .ok line) :
    ReadsLine line (pluginArguments node setting) := by
  obtain ⟨tag, name, form⟩ := setting
  cases form with
  | text =>
      cases hline
      exact Setting.readsLine_ofText node hsetting name
  | switch => exact Setting.readsLine_switchLine hsetting hline

theorem readsBlock_pluginCalls {project : Project} {blocks : List Block}
    (hblocks : pluginCalls project = .ok blocks) :
    List.Forall₂ ReadsBlock blocks (pluginCommands project) := by
  rw [pluginCalls] at hblocks
  rw [pluginCommands]
  by_cases hkind : project.kind? = some .audioPlugin
  · rw [if_pos hkind] at hblocks ⊢
    obtain ⟨lines, hlines, rfl⟩ := map_eq_ok_iff.mp hblocks
    refine .cons (readsBlock_of_body rfl (by decide) ?_) .nil
    rw [List.forall₂_map_right_iff]
    refine forall₂_of_mapM_eq_ok (fun setting hsetting line hline => ?_) hlines
    exact readsLine_pluginLine (isWord_of_mem_pluginSettings setting hsetting) hline
  · rw [if_neg hkind] at hblocks ⊢
    cases hblocks
    exact .nil

end ReprojucerScript

end JuceBuild
