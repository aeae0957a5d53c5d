import FrametimeCfg.Domain.Logging
import Mathlib.Data.Bool.AllAny

/-!
# What a redacted message still says

The names are gone from a redacted message, what is left of it is unchanged, and a second
redaction changes nothing.  Of the paths into user folders only the first one is rewritten.

* `redactUserPaths_of_first` — the path that is rewritten.
* `pathsRedacted_iff` — when every path is redacted afterwards.
* `logRedaction` — both for every message.
-/

namespace FrametimeCfg.Verified.LogRedaction

open FrametimeCfg.Domain.Logging
open FrametimeCfg.Lib.Text

/-! ## The first path -/

/-- The text ends here, or a character follows at which a path may end. -/
def AtPathEnd (rest : List Char) : Prop := ∀ c, rest.head? = some c → isPathEnd c = true

/-- **The first path into a user folder** of a text: its marker in any case, the name of the
folder up to its end, and no marker before it. -/
structure FirstPath (text before marker folder rest : List Char) : Prop where
  text_eq : text = before ++ marker ++ folder ++ rest
  isMarker : marker.map Char.toLower = USERS_MARKER
  first : ¬ USERS_MARKER <:+: (before ++ marker.dropLast).map Char.toLower
  inFolder : ∀ c ∈ folder, isPathEnd c = false
  ended : AtPathEnd rest

theorem marker_ne_nil : USERS_MARKER ≠ [] := by decide

theorem marker_length {marker : List Char} (h : marker.map Char.toLower = USERS_MARKER) :
    marker.length = USERS_MARKER.length := by
  rw [← h, List.length_map]

theorem marker_concat {marker : List Char} (h : marker.map Char.toLower = USERS_MARKER) :
    ∃ init last, marker = init ++ [last] := by
  rcases List.eq_nil_or_concat marker with rfl | ⟨init, last, rfl⟩
  · exact absurd h.symm marker_ne_nil
  · exact ⟨init, last, List.concat_eq_append⟩

/-- No marker starts before the first one, whatever follows it. -/
theorem no_earlier {before marker tail before' after' : List Char}
    (hmarker : marker.map Char.toLower = USERS_MARKER)
    (hfirst : ¬ USERS_MARKER <:+: (before ++ marker.dropLast).map Char.toLower)
    (htext : (before ++ marker ++ tail).map Char.toLower = before' ++ USERS_MARKER ++ after') :
    before.length ≤ before'.length := by
  by_contra hearlier
  obtain ⟨init, last, rfl⟩ := marker_concat hmarker
  rw [List.dropLast_concat] at hfirst
  have hlength := marker_length hmarker
  have hwhole : (before ++ (init ++ [last]) ++ tail).map Char.toLower =
      (before ++ init).map Char.toLower ++ (last :: tail).map Char.toLower := by
    simp
  have hprefix : before' ++ USERS_MARKER <+: (before ++ init).map Char.toLower := by
    refine List.prefix_of_prefix_length_le ⟨after', htext.symm⟩ ?_ ?_
    · rw [hwhole]
      exact List.prefix_append _ _
    · simp only [List.length_append, List.length_map, List.length_singleton] at hlength ⊢
      omega
  exact hfirst ((List.suffix_append _ _).isInfix.trans hprefix.isInfix)

theorem dropWhile_folder {folder rest : List Char} (hfolder : ∀ c ∈ folder, isPathEnd c = false)
    (hrest : AtPathEnd rest) :
    (folder ++ rest).dropWhile (fun c => !isPathEnd c) = rest := by
  rw [List.dropWhile_append_of_pos fun c hc => by rw [hfolder c hc, Bool.not_false]]
  cases rest with
  | nil => rfl
  | cons c rest => rw [List.dropWhile_cons_of_neg (by simp [hrest c rfl])]

/-- **The first path is rewritten**, and nothing else. -/
theorem redactUserPaths_of_first {text before marker folder rest : List Char}
    (h : FirstPath text before marker folder rest) :
    redactUserPaths text = before ++ REDACTED_PATH ++ rest := by
  have hlength := marker_length h.isMarker
  have hlower : text.map Char.toLower = before.map Char.toLower ++ USERS_MARKER ++
      (folder ++ rest).map Char.toLower := by
    rw [h.text_eq, ← h.isMarker]
    simp
  have hcut : splitOnceText USERS_MARKER (text.map Char.toLower) =
      some (before.map Char.toLower, (folder ++ rest).map Char.toLower) := by
    rw [hlower]
    refine splitOnceText_of_first marker_ne_nil fun before' after' heq => ?_
    rw [List.length_map]
    have hpieces : (before ++ marker ++ (folder ++ rest)).map Char.toLower =
        before' ++ USERS_MARKER ++ after' := by
      rw [← heq, ← h.isMarker]
      simp
    exact no_earlier h.isMarker h.first hpieces
  have hstart : text.take (before.map Char.toLower).length = before := by
    rw [List.length_map, h.text_eq, List.append_assoc, List.append_assoc, List.take_left]
  have htail : text.drop ((before.map Char.toLower).length + USERS_MARKER.length) =
      folder ++ rest := by
    rw [List.length_map, ← hlength, ← List.length_append, h.text_eq, List.append_assoc,
      List.drop_left]
  unfold redactUserPaths
  rw [hcut]
  simp only [hstart, htail, dropWhile_folder h.inFolder h.ended]

/-- A text without a marker stays as it is; in another the first path is found. -/
theorem path_cases (text : List Char) :
    ¬ USERS_MARKER <:+: text.map Char.toLower ∧ redactUserPaths text = text ∨
      ∃ before marker folder rest, FirstPath text before marker folder rest := by
  cases hcut : splitOnceText USERS_MARKER (text.map Char.toLower) with
  | none =>
    refine .inl ⟨splitOnceText_eq_none hcut, ?_⟩
    unfold redactUserPaths
    rw [hcut]
  | some pieces =>
    right
    obtain ⟨start, tail⟩ := pieces
    have hlower := (splitOnceText_eq_some marker_ne_nil hcut).1
    obtain ⟨head, after, rfl, hhead, rfl⟩ := List.map_eq_append_iff.mp hlower
    obtain ⟨before, marker, rfl, rfl, hmarker⟩ := List.map_eq_append_iff.mp hhead
    refine ⟨before, marker, after.takeWhile fun c => !isPathEnd c,
      after.dropWhile fun c => !isPathEnd c, ?_, hmarker, ?_, ?_, ?_⟩
    · rw [List.append_assoc (before ++ marker), List.takeWhile_append_dropWhile]
    · intro ⟨before', after', hearlier⟩
      obtain ⟨init, last, rfl⟩ := marker_concat hmarker
      rw [List.dropLast_concat] at hearlier
      have hlength := marker_length hmarker
      have htext : (before ++ (init ++ [last]) ++ after).map Char.toLower =
          before' ++ USERS_MARKER ++ (after' ++ (last :: after).map Char.toLower) := by
        calc (before ++ (init ++ [last]) ++ after).map Char.toLower
            = (before ++ init).map Char.toLower ++ (last :: after).map Char.toLower := by simp
          _ = _ := by rw [← hearlier, List.append_assoc]
      have hfirst := splitOnceText_first marker_ne_nil hcut htext
      have hshort := congrArg List.length hearlier
      simp only [List.length_append, List.length_map, List.length_singleton] at *
      omega
    · intro c hc
      have hplain := List.all_eq_true.mp List.all_takeWhile c hc
      simpa using hplain
    · intro c hc
      have hend := List.head?_dropWhile_not (fun c => !isPathEnd c) after
      rw [hc] at hend
      simpa using hend

/-! ## Every path -/

/-- **Every path into a user folder is redacted**: each marker, in any case, is followed by
the text that stands for a name, which ends there. -/
def PathsRedacted (text : List Char) : Prop :=
  ∀ before marker after, text = before ++ marker ++ after →
    marker.map Char.toLower = USERS_MARKER →
    ∃ rest, after = REDACTED ++ rest ∧ AtPathEnd rest

/-- The text after its first path has only redacted paths. -/
def LaterPathsRedacted (text : List Char) : Prop :=
  ∀ before marker folder rest, FirstPath text before marker folder rest → PathsRedacted rest

/-- The start of the path that is written. -/
def writtenMarker : List Char := "C:\\Users\\".toList

theorem redactedPath_eq : REDACTED_PATH = writtenMarker ++ REDACTED := by decide

theorem writtenMarker_lower : writtenMarker.map Char.toLower = USERS_MARKER := by decide

theorem redacted_inFolder : ∀ c ∈ REDACTED, isPathEnd c = false :=
  List.all_iff_forall_prop.mp (by decide)

theorem marker_apart : Apart USERS_MARKER REDACTED := by
  have hedges : Apart USERS_MARKER ('<' :: "redacted".toList ++ ['>']) :=
    apart_of_edges (by decide) (by decide) (by decide)
  exact hedges

section Written

variable {text before marker folder rest : List Char}

/-- The path that was written is the first one afterwards. -/
theorem firstPath_written (h : FirstPath text before marker folder rest) :
    FirstPath (before ++ REDACTED_PATH ++ rest) before writtenMarker REDACTED rest where
  text_eq := by rw [redactedPath_eq]; simp
  isMarker := writtenMarker_lower
  first := by
    have hsame : writtenMarker.dropLast.map Char.toLower =
        marker.dropLast.map Char.toLower := by
      rw [List.map_dropLast, List.map_dropLast, h.isMarker, writtenMarker_lower]
    rw [List.map_append, hsame, ← List.map_append]
    exact h.first
  inFolder := redacted_inFolder
  ended := h.ended

/-- A marker afterwards is that of the path that was written, or stands after it. -/
theorem marker_cases (h : FirstPath text before marker folder rest)
    {before' marker' after' : List Char}
    (htext : before ++ REDACTED_PATH ++ rest = before' ++ marker' ++ after')
    (hmarker' : marker'.map Char.toLower = USERS_MARKER) :
    before'.length = before.length ∨
      (before ++ REDACTED_PATH).length ≤ before'.length := by
  have hwritten := firstPath_written h
  have hlower := congrArg (List.map Char.toLower) htext
  simp only [List.map_append, hmarker'] at hlower
  have hearly : before.length ≤ before'.length := by
    have hpieces : (before ++ writtenMarker ++ (REDACTED ++ rest)).map Char.toLower =
        before'.map Char.toLower ++ USERS_MARKER ++ after'.map Char.toLower := by
      rw [← hlower, redactedPath_eq]
      simp
    have hfirst := no_earlier hwritten.isMarker hwritten.first hpieces
    rwa [List.length_map] at hfirst
  have hmeet : (before' ++ marker').length ≤ (before ++ writtenMarker).length ∨
      (before ++ REDACTED_PATH).length ≤ before'.length := by
    have hpath : REDACTED_PATH.map Char.toLower =
        writtenMarker.map Char.toLower ++ REDACTED := by decide
    have hpieces : before'.map Char.toLower ++ USERS_MARKER ++ after'.map Char.toLower =
        (before ++ writtenMarker).map Char.toLower ++ REDACTED ++ rest.map Char.toLower := by
      rw [← hlower, hpath]
      simp
    have hdisjoint := marker_apart.disjoint hpieces
    rw [List.length_map, List.length_map, ← marker_length hmarker'] at hdisjoint
    rw [redactedPath_eq]
    simp only [List.length_append] at hdisjoint ⊢
    omega
  rcases hmeet with hmeet | hmeet
  · left
    have hlength := marker_length hmarker'
    have hlength' := marker_length writtenMarker_lower
    simp only [List.length_append] at hmeet
    omega
  · exact .inr hmeet

/-- After the first path is written, every path is redacted exactly if those after it are. -/
theorem pathsRedacted_written (h : FirstPath text before marker folder rest) :
    PathsRedacted (before ++ REDACTED_PATH ++ rest) ↔ PathsRedacted rest := by
  constructor
  · intro hall before' marker' after' hrest hmarker'
    refine hall (before ++ REDACTED_PATH ++ before') marker' after' ?_ hmarker'
    rw [hrest]
    simp
  · intro hrest before' marker' after' htext hmarker'
    rcases marker_cases h htext hmarker' with hsame | hlater
    · -- the marker is the one that was written
      refine ⟨rest, ?_, h.ended⟩
      have hlength : before.length + writtenMarker.length = before'.length + marker'.length := by
        rw [hsame, marker_length writtenMarker_lower, marker_length hmarker']
      have hpieces : (before ++ writtenMarker) ++ (REDACTED ++ rest) =
          (before' ++ marker') ++ after' := by
        rw [← htext, redactedPath_eq]
        simp
      exact (List.append_inj hpieces (by simpa using hlength)).2.symm
    · rw [List.append_assoc before'] at htext
      rcases List.append_eq_append_iff.mp htext with ⟨start, hbefore', htail⟩ | ⟨start, hw, htail⟩
      · exact hrest start marker' after' (by rw [htail, List.append_assoc]) hmarker'
      · have hnil : start = [] := List.length_eq_zero_iff.mp (by
          rw [hw, List.length_append] at hlater
          omega)
        rw [hnil, List.nil_append] at htail
        exact hrest [] marker' after' (by rw [← htail, List.nil_append]) hmarker'

end Written

/-- When every path is redacted afterwards. -/
theorem pathsRedacted_iff (text : List Char) :
    PathsRedacted (redactUserPaths text) ↔ LaterPathsRedacted text := by
  rcases path_cases text with ⟨hnone, hsame⟩ | ⟨before, marker, folder, rest, hfirst⟩
  · have hfree : ∀ before marker after, text = before ++ marker ++ after →
        marker.map Char.toLower ≠ USERS_MARKER := by
      intro before marker after htext hmarker
      refine hnone ⟨before.map Char.toLower, after.map Char.toLower, ?_⟩
      rw [htext, ← hmarker]
      simp
    rw [hsame]
    constructor
    · intro _ before marker folder rest hfirst
      refine absurd hfirst.isMarker (hfree before marker (folder ++ rest) ?_)
      rw [hfirst.text_eq]
      simp
    · intro _ before marker after htext hmarker
      exact absurd hmarker (hfree before marker after htext)
  · rw [redactUserPaths_of_first hfirst, pathsRedacted_written hfirst]
    constructor
    · intro hrest before' marker' folder' rest' hfirst'
      have hsame := redactUserPaths_of_first hfirst'
      rw [redactUserPaths_of_first hfirst] at hsame
      rw [← pathsRedacted_written hfirst', ← hsame, pathsRedacted_written hfirst]
      exact hrest
    · exact fun hlater => hlater before marker folder rest hfirst

/-! ## The names -/

/-- A name that shares no place with a text that is written. -/
def Separate (name : List Char) : Prop := Apart name REDACTED ∧ Apart name REDACTED_PATH

/-- One of the replacements of `redactNames`. -/
def replaceName (name : Option (List Char)) (text : List Char) : List Char :=
  match name with
  | none => text
  | some name => replaceAll name REDACTED text

section Names

variable {computerName userName : Option (List Char)}

theorem redactNames_eq (hcomputer : ∀ name, computerName = some name → Separate name)
    (huser : ∀ name, userName = some name → Separate name) (message : List Char) :
    redactNames message computerName userName =
      replaceName userName (replaceName computerName message) := by
  unfold redactNames
  cases computerName with
  | none =>
    cases userName with
    | none => rfl
    | some user => simp [replaceName, (huser user rfl).1.left_ne_nil]
  | some computer =>
    cases userName with
    | none => simp [replaceName, (hcomputer computer rfl).1.left_ne_nil]
    | some user =>
      simp [replaceName, (hcomputer computer rfl).1.left_ne_nil,
        (huser user rfl).1.left_ne_nil]

variable {name : Option (List Char)} (hname : ∀ value, name = some value → Separate value)

include hname

/-- A name does not occur after its replacement. -/
theorem replaced_name {value : List Char} (h : name = some value) (text : List Char) :
    ¬ value <:+: replaceName name text := by
  subst h
  exact not_infix_replaceAll (hname value rfl).1 text

/-- The replacement of a name brings no other name in. -/
theorem replaceName_keeps {other : List Char} (hother : Separate other) {text : List Char}
    (h : ¬ other <:+: text) : ¬ other <:+: replaceName name text := by
  cases name with
  | none => exact h
  | some value =>
    exact not_infix_replaceAll_of (hname value rfl).1.left_ne_nil hother.1 h

/-- Without the name nothing is replaced. -/
theorem replaceName_of_free {text : List Char} (h : ∀ value, name = some value →
    ¬ value <:+: text) : replaceName name text = text := by
  cases name with
  | none => rfl
  | some value => exact replaceAll_of_free (h value rfl)

theorem edited_replaceName (text : List Char) :
    Edited (fun old new => name = some old ∧ new = REDACTED) text (replaceName name text) := by
  cases name with
  | none => exact .refl text
  | some value => exact edited_replaceAll (hname value rfl).1.left_ne_nil ⟨rfl, rfl⟩ text

end Names

/-- A name does not occur in a path that is rewritten. -/
theorem redactUserPaths_keeps {name : List Char} (hname : Separate name) {text : List Char}
    (h : ¬ name <:+: text) : ¬ name <:+: redactUserPaths text := by
  rcases path_cases text with ⟨_, hsame⟩ | ⟨before, marker, folder, rest, hfirst⟩
  · rwa [hsame]
  · rw [redactUserPaths_of_first hfirst]
    rw [hfirst.text_eq] at h
    intro hin
    rcases hname.2.infix_cases hin with hin | hin
    · exact h (hin.trans ⟨[], marker ++ folder ++ rest, by simp⟩)
    · exact h (hin.trans (List.suffix_append _ _).isInfix)

/-- A second rewriting finds the path of the first. -/
theorem redactUserPaths_twice (text : List Char) :
    redactUserPaths (redactUserPaths text) = redactUserPaths text := by
  rcases path_cases text with ⟨_, hsame⟩ | ⟨before, marker, folder, rest, hfirst⟩
  · rw [hsame, hsame]
  · rw [redactUserPaths_of_first hfirst]
    exact redactUserPaths_of_first (firstPath_written hfirst)

/-- A path into a user folder, up to the name of the folder. -/
def IsUserPath (path : List Char) : Prop :=
  ∃ marker folder, path = marker ++ folder ∧ marker.map Char.toLower = USERS_MARKER ∧
    ∀ c ∈ folder, isPathEnd c = false

theorem edited_redactUserPaths (text : List Char) :
    Edited (fun old new => IsUserPath old ∧ new = REDACTED_PATH) text
      (redactUserPaths text) := by
  rcases path_cases text with ⟨_, hsame⟩ | ⟨before, marker, folder, rest, hfirst⟩
  · rw [hsame]
    exact .refl text
  · have hpath : IsUserPath (marker ++ folder) :=
      ⟨marker, folder, rfl, hfirst.isMarker, hfirst.inFolder⟩
    rw [redactUserPaths_of_first hfirst, hfirst.text_eq, List.append_assoc before marker,
      List.append_assoc before, List.append_assoc before]
    refine Edited.append_left before ?_
    exact .swap ⟨hpath, rfl⟩ (.refl rest)

/-! ## The redacted message -/

/-- Only the names and paths of user folders are exchanged between a message and its
redaction. -/
def OnlyRedacted (computerName userName : Option (List Char)) (message out : List Char) : Prop :=
  ∃ withoutComputer withoutNames,
    Edited (fun old new => computerName = some old ∧ new = REDACTED) message
      withoutComputer ∧
    Edited (fun old new => userName = some old ∧ new = REDACTED) withoutComputer
      withoutNames ∧
    Edited (fun old new => IsUserPath old ∧ new = REDACTED_PATH) withoutNames out

/-- **What redaction establishes.**  For names that share no place with the texts that are
written, no name is left, nothing else is changed and a second redaction changes nothing;
and every path into a user folder is redacted if and only if, with the names replaced, those
after the first one are redacted already. -/
theorem logRedaction (message : List Char) (computerName userName : Option (List Char))
    (hcomputer : ∀ name, computerName = some name → Separate name)
    (huser : ∀ name, userName = some name → Separate name) :
    ((∀ name, computerName = some name ∨ userName = some name →
        ¬ name <:+: redactMessage message computerName userName) ∧
      OnlyRedacted computerName userName message
        (redactMessage message computerName userName) ∧
      redactMessage (redactMessage message computerName userName) computerName userName =
        redactMessage message computerName userName) ∧
    (PathsRedacted (redactMessage message computerName userName) ↔
      LaterPathsRedacted (redactNames message computerName userName)) := by
  have hout : redactMessage message computerName userName =
      redactUserPaths (replaceName userName (replaceName computerName message)) := by
    rw [redactMessage, redactNames_eq hcomputer huser]
  have hcomputerGone : ∀ name, computerName = some name →
      ¬ name <:+: redactMessage message computerName userName := by
    intro name hname
    rw [hout]
    exact redactUserPaths_keeps (hcomputer name hname)
      (replaceName_keeps huser (hcomputer name hname) (replaced_name hcomputer hname message))
  have huserGone : ∀ name, userName = some name →
      ¬ name <:+: redactMessage message computerName userName := by
    intro name hname
    rw [hout]
    exact redactUserPaths_keeps (huser name hname) (replaced_name huser hname _)
  refine ⟨⟨?_, ?_, ?_⟩, pathsRedacted_iff _⟩
  · intro name hname
    exact hname.elim (hcomputerGone name) (huserGone name)
  · rw [hout]
    exact ⟨_, _, edited_replaceName hcomputer message, edited_replaceName huser _,
      edited_redactUserPaths _⟩
  · rw [redactMessage, redactNames_eq hcomputer huser,
      replaceName_of_free hcomputer hcomputerGone, replaceName_of_free huser huserGone, hout,
      redactUserPaths_twice]

private theorem separate_host : Separate "HOST".toList :=
  ⟨apart_of_disjoint (by decide) (by decide) (List.all_iff_forall_prop.mp (by decide)),
    apart_of_disjoint (by decide) (by decide) (List.all_iff_forall_prop.mp (by decide))⟩

private theorem separate_mary : Separate "MARY".toList :=
  ⟨apart_of_disjoint (by decide) (by decide) (List.all_iff_forall_prop.mp (by decide)),
    apart_of_disjoint (by decide) (by decide) (List.all_iff_forall_prop.mp (by decide))⟩

theorem logRedaction_onePath :
    ¬ "MARY".toList <:+: redactMessage "HOST MARY C:\\Users\\MARY\\demo.cfg".toList
      (some "HOST".toList) (some "MARY".toList) :=
  (logRedaction "HOST MARY C:\\Users\\MARY\\demo.cfg".toList
    (some "HOST".toList) (some "MARY".toList)
    (fun _ h => Option.some.inj h ▸ separate_host)
    (fun _ h => Option.some.inj h ▸ separate_mary)).1.1 _ (.inr rfl)

/-- The second path of a message keeps the name of its folder. -/
theorem redactMessage_secondPath :
    Separate "HOST".toList ∧ Separate "MARY".toList ∧
      ¬ PathsRedacted (redactMessage "C:\\Users\\bob\\a c:\\users\\carol\\b".toList
        (some "HOST".toList) (some "MARY".toList)) := by
  refine ⟨separate_host, separate_mary, fun hall => ?_⟩
  have hout : redactMessage "C:\\Users\\bob\\a c:\\users\\carol\\b".toList
      (some "HOST".toList) (some "MARY".toList) =
      "C:\\Users\\<redacted>\\a ".toList ++ "c:\\users\\".toList ++ "carol\\b".toList := by
    decide
  obtain ⟨rest, hrest, _⟩ := hall _ _ _ hout (by decide)
  have hhead : "carol\\b".toList.head? = REDACTED.head? := by
    rw [hrest]
    rfl
  revert hhead
  decide

end FrametimeCfg.Verified.LogRedaction
