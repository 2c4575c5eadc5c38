import JuceBuild.Proofs.Script.Bodies

/-!
# Every setting is listed

A call for settings lists all the settings it knows about, whatever a project says of them: one that
the project says nothing of is left to a comment with its tag. So the tags of a call, with those in
comments, are the same for all projects: they follow a layout that depends on the function that is
called, on whether the project hosts plug-ins and on the environment. What it means to say nothing
of a setting is not the same for all settings: an empty text counts as none, an empty switch is off,
and of the macOS SDKs only the known ones and the default count.
-/

namespace JuceBuild

open Script

/-! ### Tags -/

namespace Script

/-- The tag of a line: its first word, or the word after the number sign if the line is a comment.
-/
def tagOf (line : String) : String :=
  let text := line.toList.dropWhile isSeparator
  let word := if text.take 2 = ['#', ' '] then text.drop 2 else text
  String.ofList (word.takeWhile (!isSeparator ·))

theorem tagOf_indent (line : String) : tagOf ("  " ++ line) = tagOf line := by
  have hchars : ("  " ++ line).toList = ' ' :: ' ' :: line.toList := by simp
  have hdrop : ("  " ++ line).toList.dropWhile isSeparator = line.toList.dropWhile isSeparator := by
    rw [hchars, List.dropWhile_cons_of_pos rfl, List.dropWhile_cons_of_pos rfl]
  rw [tagOf, tagOf, hdrop]

variable {tag : String}

/-- A word begins with a plain character, and goes on up to a separator. -/
theorem IsWord.exists_cons (htag : IsWord tag) :
    ∃ c rest, tag.toList = c :: rest ∧ c ≠ '#' ∧ isSeparator c = false
      ∧ ∀ d ∈ tag.toList, (!isSeparator d) = true := by
  obtain ⟨hne, hplain⟩ := htag
  have hseparator : ∀ d ∈ tag.toList, isSeparator d = false := by
    intro d hd
    have hd := hplain d hd
    rw [isPlain, Bool.and_eq_true, Bool.not_eq_true'] at hd
    exact hd.1
  obtain ⟨c, rest, hchars⟩ : ∃ c rest, tag.toList = c :: rest := by
    apply List.exists_cons_of_ne_nil
    simpa using hne
  have hc : c ∈ tag.toList := hchars ▸ List.mem_cons_self
  refine ⟨c, rest, hchars, ?_, hseparator c hc, fun d hd => by rw [hseparator d hd]; rfl⟩
  rintro rfl
  have hnumber := hplain '#' hc
  cases hnumber

theorem tagOf_append (htag : IsWord tag) (more : String) : tagOf (tag ++ " " ++ more) = tag := by
  obtain ⟨c, rest, hchars, hnumber, hseparator, hword⟩ := htag.exists_cons
  have hline : (tag ++ " " ++ more).toList = tag.toList ++ ' ' :: more.toList := by simp
  have hdrop : (tag.toList ++ ' ' :: more.toList).dropWhile isSeparator
      = tag.toList ++ ' ' :: more.toList := by
    rw [hchars, List.cons_append, List.dropWhile_cons_of_neg (by simp [hseparator])]
  have hcomment : ¬(tag.toList ++ ' ' :: more.toList).take 2 = ['#', ' '] := by
    simp [hchars, hnumber]
  have hstop : (' ' :: more.toList).takeWhile (!isSeparator ·) = [] := rfl
  rw [tagOf, hline, hdrop]
  simp only [hcomment, if_false]
  rw [List.takeWhile_append_of_pos hword, hstop, List.append_nil, String.ofList_toList]

theorem tagOf_placeholder (htag : IsWord tag) : tagOf (Setting.placeholder tag) = tag := by
  obtain ⟨c, rest, hchars, hnumber, hseparator, hword⟩ := htag.exists_cons
  have hline : (Setting.placeholder tag).toList = '#' :: ' ' :: tag.toList := by
    simp [Setting.placeholder]
  have hself : tag.toList.takeWhile (!isSeparator ·) = tag.toList :=
    List.takeWhile_eq_self_iff.mpr hword
  rw [tagOf, hline, List.dropWhile_cons_of_neg (by decide)]
  simp only [List.take_succ_cons, List.take_zero, if_true, List.drop_succ_cons, List.drop_zero,
    hself, String.ofList_toList]

/-- A line with a value is no comment. -/
theorem append_ne_placeholder (htag : IsWord tag) (more : String) :
    tag ++ " " ++ more ≠ Setting.placeholder tag := by
  obtain ⟨c, rest, hchars, hnumber, -, -⟩ := htag.exists_cons
  intro hline
  have hlist := congrArg String.toList hline
  rw [Setting.placeholder] at hlist
  simp only [String.toList_append, hchars, List.cons_append] at hlist
  exact hnumber (List.cons.inj hlist).1

theorem append_on (tag : String) : tag ++ " ON" = tag ++ " " ++ "ON" := by
  rw [String.append_assoc]
  rfl

theorem append_off (tag : String) : tag ++ " OFF" = tag ++ " " ++ "OFF" := by
  rw [String.append_assoc]
  rfl

/-! ### Layouts -/

/-- What a node has to say of a setting for the setting not to be left to a comment. -/
inductive Presence where
  | always
  | text (name : String)
  | switch (name : String)
  | sdk (name : String)
  deriving DecidableEq, Repr

/-- A node says nothing of a setting. -/
def Presence.IsLeftOpen (node : Xml.Node) : Presence → Prop
  | always => False
  | text name => node.attribute? name = none ∨ node.attribute? name = some ""
  | switch name => node.attribute? name = none
  | sdk name => node.attributeD name ≠ "default" ∧ node.attributeD name ∉ osxSdks

/-- A line of a call: its tag, and what decides between a value and a comment. -/
structure Slot where
  tag : String
  presence : Presence
  deriving DecidableEq, Repr

/-- A line is a comment exactly if the node says nothing of the setting. A switch is off if its
attribute does not begin with a number. -/
structure Slot.Fits (node : Xml.Node) (slot : Slot) (line : String) : Prop where
  placeholder_iff : line = "  " ++ Setting.placeholder slot.tag ↔ slot.presence.IsLeftOpen node
  off : ∀ name value, slot.presence = .switch name → node.attribute? name = some value →
    (value = "" ∨ Text.leadingNumeral? value.toList = none) → line = "  " ++ (slot.tag ++ " OFF")

/-- The body of a call for a node has the tags of a layout, and its lines fit. -/
structure Follows (layout : List Slot × Xml.Node) (body : List String) : Prop where
  tags_eq : body.map tagOf = layout.1.map Slot.tag
  fits : List.Forall₂ (Slot.Fits layout.2) layout.1 body

/-- A line, before it is indented, has the tag of a slot and fits. -/
def Slot.Writes (node : Xml.Node) (slot : Slot) (line : String) : Prop :=
  tagOf ("  " ++ line) = slot.tag ∧ slot.Fits node ("  " ++ line)

variable {node : Xml.Node} {slot : Slot} {line name : String}

theorem follows_of_forall₂ {layout : List Slot} {lines : List String}
    (hlines : List.Forall₂ (Slot.Writes node) layout lines) :
    Follows (layout, node) (lines.map ("  " ++ ·)) := by
  constructor
  · induction hlines with
    | nil => rfl
    | cons hline _ ih => rw [List.map_cons, List.map_cons, List.map_cons, hline.1, ih]
  · rw [List.forall₂_map_right_iff]
    exact hlines.imp fun slot line hline => hline.2

theorem indent_inj {other : String} : "  " ++ line = "  " ++ other ↔ line = other := by
  rw [← String.toList_inj, ← String.toList_inj, String.toList_append, String.toList_append,
    List.append_cancel_left_eq]

/-- A slot with a word for a tag: a comment if the node says nothing, and a value if it does. -/
theorem Slot.writes_of_cases (htag : IsWord slot.tag)
    (hopen : slot.presence.IsLeftOpen node → line = Setting.placeholder slot.tag)
    (hgiven : ¬slot.presence.IsLeftOpen node → ∃ more, line = slot.tag ++ " " ++ more)
    (hoff : ∀ name value, slot.presence = .switch name → node.attribute? name = some value →
      Text.leadingNumeral? value.toList = none → line = slot.tag ++ " OFF") :
    slot.Writes node line := by
  rw [Writes, tagOf_indent]
  by_cases hleft : slot.presence.IsLeftOpen node
  · have hline := hopen hleft
    refine ⟨hline ▸ tagOf_placeholder htag, ⟨indent_inj.trans (iff_of_true hline hleft), ?_⟩⟩
    intro name value hswitch hvalue _
    rw [hswitch, Presence.IsLeftOpen, hvalue] at hleft
    cases hleft
  · obtain ⟨more, hline⟩ := hgiven hleft
    have hvalue : line ≠ Setting.placeholder slot.tag := hline ▸ append_ne_placeholder htag more
    refine ⟨hline ▸ tagOf_append htag more, ⟨indent_inj.trans (iff_of_false hvalue hleft), ?_⟩⟩
    rintro name value hswitch hvalue (rfl | hnumeral)
    · rw [hoff name "" hswitch hvalue rfl]
    · rw [hoff name value hswitch hvalue hnumeral]

/-! ### The line of each kind of setting -/

theorem writes_always {tag : String} (htag : IsWord tag) (more : String)
    (hline : line = tag ++ " " ++ more) : Slot.Writes node ⟨tag, .always⟩ line :=
  Slot.writes_of_cases htag (fun hleft => hleft.elim) (fun _ => ⟨more, hline⟩) nofun

theorem exists_quoted (tag value : String) :
    ∃ more, tag ++ " \"" ++ value ++ "\"" = tag ++ " " ++ more := by
  refine ⟨"\"" ++ value ++ "\"", ?_⟩
  apply String.toList_injective
  simp

theorem writes_quoted {tag value : String} (htag : IsWord tag) :
    Slot.Writes node ⟨tag, .always⟩ (tag ++ " \"" ++ value ++ "\"") := by
  obtain ⟨more, hline⟩ := exists_quoted tag value
  exact writes_always htag more hline

theorem writes_text {tag : String} (htag : IsWord tag) (name : String) :
    Slot.Writes node ⟨tag, .text name⟩ (Setting.ofText node tag name) := by
  refine Slot.writes_of_cases htag ?_ ?_ nofun
  · rintro (hnone | hempty)
    · rw [Setting.ofText, hnone]
      rfl
    · rw [Setting.ofText, hempty]
      rfl
  · intro hgiven
    rw [Presence.IsLeftOpen, not_or] at hgiven
    cases hvalue : node.attribute? name with
    | none => exact absurd hvalue hgiven.1
    | some value =>
        have hne : value ≠ "" := fun hempty => hgiven.2 (hempty ▸ hvalue)
        rw [Setting.ofText, hvalue, Setting.textLine]
        simp only [hne, if_false]
        exact exists_quoted tag _

theorem writes_switch {tag : String} (htag : IsWord tag)
    (hline : Setting.ofSwitch node tag name = .ok line) :
    Slot.Writes node ⟨tag, .switch name⟩ line := by
  rw [Setting.ofSwitch] at hline
  cases hvalue : node.attribute? name with
  | none =>
      rw [hvalue, Setting.switchLine] at hline
      cases hline
      refine Slot.writes_of_cases htag (fun _ => rfl) (fun hgiven => absurd hvalue hgiven) ?_
      rintro other value hname hother
      cases hname
      cases hvalue.symm.trans hother
  | some text =>
      rw [hvalue, Setting.switchLine] at hline
      obtain ⟨n, hn, rfl⟩ := map_eq_ok_iff.mp hline
      refine Slot.writes_of_cases htag ?_ (fun _ => ?_) ?_
      · intro hnone
        cases hvalue.symm.trans hnone
      · by_cases hzero : n = 0
        · rw [if_pos hzero]
          exact ⟨"OFF", append_off tag⟩
        · rw [if_neg hzero]
          exact ⟨"ON", append_on tag⟩
      · rintro other value hname hother hnumeral
        cases hname
        cases hvalue.symm.trans hother
        rw [Text.leadingInt, hnumeral] at hn
        cases hn
        rfl

theorem writes_sdk {tag : String} (htag : IsWord tag) (name : String) (versionOnly : Bool) :
    Slot.Writes node ⟨tag, .sdk name⟩ (osxSdkLine tag (node.attributeD name) versionOnly) := by
  refine Slot.writes_of_cases htag ?_ ?_ nofun
  · rintro ⟨hdefault, hsdk⟩
    rw [osxSdkLine, if_neg hdefault, if_neg hsdk]
    rfl
  · intro hgiven
    -- The default is no known SDK, and is looked for first.
    rw [Presence.IsLeftOpen, not_and_or, not_not, not_not] at hgiven
    rw [osxSdkLine]
    by_cases hdefault : node.attributeD name = "default"
    · rw [if_pos hdefault]
      exact ⟨"\"Use Default\"", by rw [String.append_assoc]; rfl⟩
    · rw [if_neg hdefault, if_pos (hgiven.resolve_left hdefault)]
      exact exists_quoted tag _

end Script

/-! ### The layout of each call -/

theorem Xml.Node.attributeD_eq_empty_iff {node : Xml.Node} {name : String} :
    node.attributeD name = "" ↔ node.attribute? name = none ∨ node.attribute? name = some "" := by
  rw [attributeD]
  cases node.attribute? name <;> simp

namespace ExportTarget

/-- The first word of the line with the name of an environment. -/
def titleTag (target : ExportTarget) : String := tagOf ("\"" ++ target.displayName ++ "\"")

def targetLayout (hosts : Bool) (target : ExportTarget) : List Slot :=
  ⟨target.titleTag, .always⟩ ::
    ((if hosts then [⟨"VST3_SDK_FOLDER", .always⟩] else []) ++
      [⟨"EXTRA_PREPROCESSOR_DEFINITIONS", .text "extraDefs"⟩,
        ⟨"EXTRA_COMPILER_FLAGS", .text "extraCompilerFlags"⟩])

def configurationLayout (target : ExportTarget) : List Slot :=
  ⟨target.titleTag, .always⟩ ::
    ⟨"NAME", .always⟩ ::
    ⟨"HEADER_SEARCH_PATHS", .text "headerPath"⟩ ::
    ⟨"PREPROCESSOR_DEFINITIONS", .text "defines"⟩ ::
    if target.selectsOsxSdk then
      [⟨"OSX_BASE_SDK_VERSION", .sdk "osxSDK"⟩,
        ⟨"OSX_DEPLOYMENT_TARGET", .sdk "osxCompatibility"⟩]
    else []

variable {cwd : Place} {project : Project}

theorem writes_title (target : ExportTarget) (node : Xml.Node) :
    Slot.Writes node ⟨target.titleTag, .always⟩ ("\"" ++ target.displayName ++ "\"") := by
  refine ⟨tagOf_indent _, ⟨indent_inj.trans (iff_of_false ?_ id), nofun⟩⟩
  intro hline
  have hlist := congrArg String.toList hline
  rw [Setting.placeholder] at hlist
  simp only [String.toList_append] at hlist
  cases (List.cons.inj hlist).1

theorem follows_targetCall (target : ExportTarget) (exporter : Exporter) :
    Follows (target.targetLayout (hostsVst3 project), exporter.node)
      (indented (target.targetCall project exporter)) := by
  refine follows_of_forall₂ (.cons (target.writes_title _) (List.rel_append ?_ ?_))
  · split
    · exact .cons (writes_quoted (by decide)) .nil
    · exact .nil
  · exact .cons (writes_text (by decide) _) (.cons (writes_text (by decide) _) .nil)

theorem writes_searchPathLine (exporter : Exporter) (configuration : Configuration) :
    Slot.Writes configuration.node ⟨"HEADER_SEARCH_PATHS", .text "headerPath"⟩
      (searchPathLine cwd project exporter configuration) := by
  have hleft : configuration.headerPath = ""
      ↔ (Presence.text "headerPath").IsLeftOpen configuration.node :=
    Xml.Node.attributeD_eq_empty_iff
  refine Slot.writes_of_cases (by decide) ?_ ?_ nofun
  · intro hopen
    rw [searchPathLine, if_pos (hleft.mpr hopen)]
  · intro hgiven
    rw [searchPathLine, if_neg (mt hleft.mp hgiven)]
    exact exists_quoted "HEADER_SEARCH_PATHS" _

theorem follows_configurationCall (target : ExportTarget) (exporter : Exporter)
    (configuration : Configuration) :
    Follows (target.configurationLayout, configuration.node)
      (indented (target.configurationCall cwd project exporter configuration)) := by
  refine follows_of_forall₂ (.cons (target.writes_title _) (.cons (writes_quoted (by decide)) ?_))
  refine .cons (writes_searchPathLine exporter configuration)
    (.cons (writes_text (by decide) _) ?_)
  rw [osxSdkLines]
  split
  · exact .cons (writes_sdk (by decide) "osxSDK" _)
      (.cons (writes_sdk (by decide) "osxCompatibility" _) .nil)
  · exact .nil

end ExportTarget

namespace ReprojucerScript

def beginLayout : List Slot := [⟨"PROJECT_FILE", .always⟩, ⟨"PROJECT_ID", .text "id"⟩]

def settingsLayout : List Slot := [
  ⟨"PROJECT_NAME", .text "name"⟩,
  ⟨"PROJECT_VERSION", .text "version"⟩,
  ⟨"COMPANY_NAME", .text "companyName"⟩,
  ⟨"COMPANY_WEBSITE", .text "companyWebsite"⟩,
  ⟨"COMPANY_EMAIL", .text "companyEmail"⟩,
  ⟨"PROJECT_TYPE", .always⟩,
  ⟨"BUNDLE_IDENTIFIER", .text "bundleIdentifier"⟩,
  ⟨"BINARYDATACPP_SIZE_LIMIT", .always⟩,
  ⟨"BINARYDATA_NAMESPACE", .text "binaryDataNamespace"⟩,
  ⟨"PREPROCESSOR_DEFINITIONS", .text "defines"⟩]

def pluginLayout : List Slot := [
  ⟨"BUILD_VST", .switch "buildVST"⟩,
  ⟨"BUILD_AUDIOUNIT", .switch "buildAU"⟩,
  ⟨"PLUGIN_NAME", .text "pluginName"⟩,
  ⟨"PLUGIN_DESCRIPTION", .text "pluginDesc"⟩,
  ⟨"PLUGIN_MANUFACTURER", .text "pluginManufacturer"⟩,
  ⟨"PLUGIN_MANUFACTURER_CODE", .text "pluginManufacturerCode"⟩,
  ⟨"PLUGIN_CODE", .text "pluginCode"⟩,
  ⟨"PLUGIN_CHANNEL_CONFIGURATIONS", .text "pluginChannelConfigs"⟩,
  ⟨"PLUGIN_IS_A_SYNTH", .switch "pluginIsSynth"⟩,
  ⟨"PLUGIN_MIDI_INPUT", .switch "pluginWantsMidiIn"⟩,
  ⟨"PLUGIN_MIDI_OUTPUT", .switch "pluginProducesMidiOut"⟩,
  ⟨"MIDI_EFFECT_PLUGIN", .switch "pluginIsMidiEffectPlugin"⟩,
  ⟨"KEY_FOCUS", .switch "pluginEditorRequiresKeys"⟩,
  ⟨"PLUGIN_AU_EXPORT_PREFIX", .text "pluginAUExportPrefix"⟩,
  ⟨"PLUGIN_AU_MAIN_TYPE", .text "pluginAUMainType"⟩,
  ⟨"VST_CATEGORY", .text "pluginVSTCategory"⟩]

variable {project : Project} {calls : List Block}

theorem follows_beginCall (project : Project) :
    Follows (beginLayout, project.root) (indented (beginCall project)) := by
  refine follows_of_forall₂ (.cons ?_ (.cons (writes_text (by decide) _) .nil))
  exact writes_quoted (by decide)

theorem follows_settingsCall (project : Project) :
    Follows (settingsLayout, project.root) (indented (settingsCall project)) := by
  have htext {tag : String} (htag : IsWord tag) (name : String) :
      Slot.Writes project.root ⟨tag, .text name⟩ (Setting.ofText project.root tag name) :=
    writes_text htag name
  refine follows_of_forall₂ (.cons (htext (by decide) _) (.cons (htext (by decide) _) ?_))
  refine .cons (htext (by decide) _) (.cons (htext (by decide) _) ?_)
  refine .cons (htext (by decide) _) (.cons (writes_quoted (by decide)) ?_)
  refine .cons (htext (by decide) _)
    (.cons (writes_always (by decide) "\"Default\"" rfl) ?_)
  exact .cons (htext (by decide) _) (.cons (htext (by decide) _) .nil)

/-- The slot of a setting of audio plug-ins. -/
def pluginSlot : String × String × SettingForm → Slot
  | (tag, name, .text) => ⟨tag, .text name⟩
  | (tag, name, .switch) => ⟨tag, .switch name⟩

theorem pluginLayout_eq_map : pluginLayout = pluginSettings.map pluginSlot := rfl

theorem writes_pluginLine {node : Xml.Node} {setting : String × String × SettingForm}
    {line : String} (htag : IsWord setting.1) (hline : pluginLine node setting = .ok line) :
    Slot.Writes node (pluginSlot setting) line := by
  obtain ⟨tag, name, form⟩ := setting
  cases form with
  | text =>
      cases hline
      exact writes_text htag name
  | switch => exact writes_switch htag hline

theorem follows_pluginCalls (hcalls : pluginCalls project = .ok calls) :
    List.Forall₂ Follows
      (if project.kindName = "audioplug" then [(pluginLayout, project.root)] else [])
      (calls.map indented) := by
  rw [pluginCalls] at hcalls
  by_cases hkind : project.kind? = some .audioPlugin
  · rw [if_pos hkind] at hcalls
    obtain ⟨lines, hlines, rfl⟩ := map_eq_ok_iff.mp hcalls
    rw [if_pos (kind?_eq_audioPlugin_iff.mp hkind)]
    refine .cons (follows_of_forall₂ ?_) .nil
    rw [pluginLayout_eq_map, List.forall₂_map_left_iff]
    have hboth := (List.forall₂_and_left _ _).mpr
      ⟨isWord_of_mem_pluginSettings, mapM_eq_ok_iff.mp hlines⟩
    exact hboth.imp fun setting line hline => writes_pluginLine hline.1 hline.2
  · rw [if_neg hkind] at hcalls
    cases hcalls
    rw [if_neg fun hname => hkind (kind?_eq_audioPlugin_iff.mpr hname)]
    exact .nil

/-- **Every setting is listed.** The calls for the settings of a project, of its environments and of
their configurations are those of the project, in their order, and each follows its layout, whatever
the attributes of the nodes are: the tags of its lines are those of the layout, and a line is a
comment exactly if the node says nothing of the setting. -/
theorem bodies_follow {store : FileStore} {reprojucer : Path} {outputDirectory? : Option Path}
    {script : ReprojucerScript}
    (hscript : ofProject store project reprojucer outputDirectory? = .ok script) :
    List.Forall₂ Follows [(beginLayout, project.root)]
        (bodies "jucer_project_begin(" script.lines)
      ∧ List.Forall₂ Follows [(settingsLayout, project.root)]
        (bodies "jucer_project_settings(" script.lines)
      ∧ List.Forall₂ Follows
        (if project.kindName = "audioplug" then [(pluginLayout, project.root)] else [])
        (bodies "jucer_audio_plugin_settings(" script.lines)
      ∧ List.Forall₂ Follows
        (project.presentExporters.map fun found =>
          (found.1.targetLayout (ExportTarget.hostsVst3 project), found.2.node))
        (bodies "jucer_export_target(" script.lines)
      ∧ List.Forall₂ Follows
        (project.presentExporters.flatMap fun found => found.2.configurations.map
          fun configuration => (found.1.configurationLayout, configuration.node))
        (bodies "jucer_export_target_configuration(" script.lines) := by
  obtain ⟨mainGroup?, modules, calls, -, -, hcalls, rfl⟩ := ofProject_eq_ok_iff.mp hscript
  rw [bodies_begin _ _ _ _ hcalls, bodies_settings _ _ _ _ hcalls, bodies_plugin _ _ _ _ hcalls,
    bodies_targets _ _ _ _ hcalls, bodies_configurations _ _ _ _ hcalls]
  refine ⟨.cons (follows_beginCall project) .nil, .cons (follows_settingsCall project) .nil,
    follows_pluginCalls hcalls, forall₂_map_map fun found _ => ?_,
    forall₂_flatMap_flatMap fun found _ => forall₂_map_map fun configuration _ => ?_⟩
  · exact found.1.follows_targetCall found.2
  · exact found.1.follows_configurationCall found.2 configuration

theorem bodies_follow_sample :
    ∃ script, ofProject sampleStore sampleProject sampleReprojucer none = .ok script
      ∧ List.Forall₂ Follows [(beginLayout, sampleProject.root)]
        (bodies "jucer_project_begin(" script.lines)
      ∧ List.Forall₂ Follows [(settingsLayout, sampleProject.root)]
        (bodies "jucer_project_settings(" script.lines)
      ∧ List.Forall₂ Follows [(pluginLayout, sampleProject.root)]
        (bodies "jucer_audio_plugin_settings(" script.lines)
      ∧ List.Forall₂ Follows
        [(ExportTarget.visualStudio2015.targetLayout false, sampleExporter.node)]
        (bodies "jucer_export_target(" script.lines)
      ∧ List.Forall₂ Follows
        [(ExportTarget.visualStudio2015.configurationLayout,
          ⟨"CONFIGURATION", [("name", "Debug"), ("headerPath", "include")], []⟩)]
        (bodies "jucer_export_target_configuration(" script.lines) := by
  obtain ⟨script, hscript⟩ := exists_sample
  obtain ⟨hbegin, hsettings, hplugin, htargets, hconfigurations⟩ := bodies_follow hscript
  have hkind : sampleProject.kindName = "audioplug" := by decide +kernel
  have hfound : sampleProject.presentExporters
      = [(ExportTarget.visualStudio2015, sampleExporter)] := rfl
  have hhosts : ExportTarget.hostsVst3 sampleProject = false := by decide
  have hdebug : sampleExporter.configurations
      = [⟨⟨"CONFIGURATION", [("name", "Debug"), ("headerPath", "include")], []⟩⟩] := rfl
  rw [if_pos hkind] at hplugin
  rw [hfound, hhosts, List.map_singleton] at htargets
  rw [hfound, List.flatMap_singleton, hdebug, List.map_singleton] at hconfigurations
  exact ⟨script, hscript, hbegin, hsettings, hplugin, htargets, hconfigurations⟩

end ReprojucerScript

end JuceBuild
