import FrametimeCfg.Lib.OrderedMap
import Mathlib.Data.List.Nodup
import Mathlib.Data.List.Pairwise

/-!
# Things with names, kept at places

Each thing has a name and a place, and a thing that is put at a place takes the place of what
was there.  A history of puts, the newest first, leaves the newest thing of each place; what
one wants to find under a name is the newest thing of that name.

The two are the same where names and places agree on the whole history (`named_eq_latest`),
and where they agree up to now, a further thing keeps them the same only if it agrees with
all before it (`agree_of_named`).
-/

namespace FrametimeCfg.Lib.Shelves

open FrametimeCfg.Lib.OrderedMap

variable {α κ : Type} (name : α → κ) (place : α → String)

/-- The newest thing of a name. -/
def latest [DecidableEq κ] (history : List α) (key : κ) : Option α :=
  history.find? fun thing => decide (name thing = key)

/-- What is at the places after a history. -/
def shelves (history : List α) : BTreeMap α :=
  history.foldr (fun thing shelf => shelf.insert (place thing) thing) ∅

/-- What is found under a name. -/
def named [DecidableEq κ] (history : List α) (key : κ) : List α :=
  ((shelves place history).toList.map Prod.snd).filter fun thing => decide (name thing = key)

/-- Two things have one name just when they have one place. -/
def Agree (thing other : α) : Prop := name thing = name other ↔ place thing = place other

section

variable {name place} {history : List α} {thing other : α}

instance : Std.Symm (Agree name place) where
  symm _ _ h := ⟨fun hname => (h.mp hname.symm).symm, fun hplace => (h.mpr hplace.symm).symm⟩

/-- Things that agree in pairs agree, each with itself too. -/
theorem agree_of_pairwise (h : history.Pairwise (Agree name place)) {thing other : α}
    (hthing : thing ∈ history) (hother : other ∈ history) : Agree name place thing other :=
  h.forall_of_forall (fun _ _ => ⟨fun _ => rfl, fun _ => rfl⟩) hthing hother

/-- A place has the newest thing that was put there. -/
theorem get_shelves (history : List α) (p : String) :
    (shelves place history)[p]? = history.find? fun thing => decide (place thing = p) := by
  induction history with
  | nil => exact Std.ExtTreeMap.getElem?_empty
  | cons thing history ih =>
      show ((shelves place history).insert (place thing) thing)[p]? = _
      rw [BTreeMap.get_insert, List.find?_cons, ih]
      by_cases h : place thing = p
      · rw [if_pos h.symm, decide_eq_true h]
      · rw [if_neg fun heq => h heq.symm, decide_eq_false h]

theorem mem_toList_shelves {p : String} :
    (p, thing) ∈ (shelves place history).toList ↔
      place thing = p ∧ history.find? (fun other => decide (place other = place thing)) =
        some thing := by
  rw [Std.ExtTreeMap.mem_toList_iff_getElem?_eq_some, get_shelves]
  constructor
  · intro h
    have hplace := List.find?_some h
    rw [decide_eq_true_eq] at hplace
    rw [hplace]
    exact ⟨rfl, h⟩
  · rintro ⟨rfl, h⟩
    exact h

variable [DecidableEq κ]

theorem mem_named {key : κ} :
    thing ∈ named name place history key ↔
      history.find? (fun other => decide (place other = place thing)) = some thing ∧
        name thing = key := by
  rw [named, List.mem_filter, List.mem_map, decide_eq_true_eq]
  constructor
  · rintro ⟨⟨⟨p, found⟩, hfound, rfl⟩, hname⟩
    exact ⟨(mem_toList_shelves.mp hfound).2, hname⟩
  · rintro ⟨h, hname⟩
    exact ⟨⟨(place thing, thing), mem_toList_shelves.mpr ⟨rfl, h⟩, rfl⟩, hname⟩

/-- Nothing is found twice. -/
theorem nodup_named (history : List α) (key : κ) : (named name place history key).Nodup := by
  refine List.Nodup.filter _ ((BTreeMap.nodup_toList _).map_on ?_)
  rintro ⟨p, thing⟩ hthing ⟨q, other⟩ hother (heq : thing = other)
  have hp := (mem_toList_shelves.mp hthing).1
  have hq := (mem_toList_shelves.mp hother).1
  rw [← hp, ← hq, heq]

/-- A list without repetition that has the members of an option. -/
theorem eq_toList_of_mem_iff {l : List α} {o : Option α} (hnodup : l.Nodup)
    (h : ∀ thing, thing ∈ l ↔ o = some thing) : l = o.toList := by
  have hperm : l.Perm o.toList := by
    rw [List.perm_ext_iff_of_nodup hnodup (by cases o <;> simp)]
    intro thing
    rw [h, Option.mem_toList]
  cases o with
  | none => exact List.perm_nil.mp hperm
  | some found => exact List.perm_singleton.mp hperm

/-- Among things that agree, the newest of a name is the newest of its place. -/
theorem find_congr (hagree : ∀ other ∈ history, Agree name place other thing) :
    history.find? (fun other => decide (place other = place thing)) =
      history.find? (fun other => decide (name other = name thing)) := by
  induction history with
  | nil => rfl
  | cons other history ih =>
      rw [List.find?_cons, List.find?_cons, ih fun o ho => hagree o (List.mem_cons_of_mem _ ho)]
      have hother := hagree other List.mem_cons_self
      rw [decide_eq_decide.mpr hother]

/-- **What is found is the newest**, where all things agree. -/
theorem named_eq_latest (h : history.Pairwise (Agree name place)) (key : κ) :
    named name place history key = (latest name history key).toList := by
  have hall : ∀ thing ∈ history, ∀ other ∈ history, Agree name place other thing :=
    fun thing hthing other hother => agree_of_pairwise h hother hthing
  refine eq_toList_of_mem_iff (nodup_named history key) fun thing => ?_
  rw [mem_named, latest]
  constructor
  · rintro ⟨hfind, rfl⟩
    rw [← find_congr (hall thing (List.mem_of_find?_eq_some hfind))]
    exact hfind
  · intro hfind
    have hname := List.find?_some hfind
    rw [decide_eq_true_eq] at hname
    subst hname
    rw [find_congr (hall thing (List.mem_of_find?_eq_some hfind))]
    exact ⟨hfind, rfl⟩

theorem find_place (place : α → String) (hother : other ∈ history) :
    ∃ found, history.find? (fun thing => decide (place thing = place other)) = some found ∧
      found ∈ history ∧ place found = place other := by
  have hsome : (history.find? fun thing => decide (place thing = place other)).isSome := by
    rw [List.find?_isSome]
    exact ⟨other, hother, decide_eq_true rfl⟩
  obtain ⟨found, hfound⟩ := Option.isSome_iff_exists.mp hsome
  have hplace := List.find?_some hfound
  rw [decide_eq_true_eq] at hplace
  exact ⟨found, hfound, List.mem_of_find?_eq_some hfound, hplace⟩

/-- A thing at another place is still found. -/
theorem mem_named_cons {found : α} (hplace : place thing ≠ place found)
    (hfind : history.find? (fun other => decide (place other = place found)) = some found) :
    found ∈ named name place (thing :: history) (name found) := by
  rw [mem_named, List.find?_cons, decide_eq_false hplace]
  exact ⟨hfind, rfl⟩

/-- **A thing that does not agree is noticed**: under some name not one thing is found where
there is one. -/
theorem agree_of_named (h : history.Pairwise (Agree name place))
    (hnamed : ∀ key, (named name place (thing :: history) key).length =
      (latest name (thing :: history) key).toList.length) :
    ∀ other ∈ history, Agree name place other thing := by
  intro other hother
  have hkey := hnamed (name other)
  constructor
  · -- Otherwise the thing and what is left at the other place share the name.
    intro hname
    by_contra hplace
    rw [latest, List.find?_cons, decide_eq_true hname.symm] at hkey
    obtain ⟨single, hsingle⟩ := List.length_eq_one_iff.mp hkey
    obtain ⟨found, hfind, hfound, hsame⟩ := find_place place hother
    have hfoundName : name found = name other := (agree_of_pairwise h hfound hother).mpr hsame
    rw [← hsame] at hfind
    have hleft : found ∈ named name place (thing :: history) (name found) :=
      mem_named_cons (fun heq => hplace (heq.trans hsame).symm) hfind
    have hnew : thing ∈ named name place (thing :: history) (name thing) := by
      rw [mem_named, List.find?_cons, decide_eq_true rfl]
      exact ⟨rfl, rfl⟩
    rw [hfoundName, hsingle, List.mem_singleton] at hleft
    rw [← hname, hsingle, List.mem_singleton] at hnew
    rw [← hsame, hleft, hnew] at hplace
    exact hplace rfl
  · -- Otherwise nothing is found under the name of what was at the place.
    intro hplace
    by_contra hname
    have hsome : (history.find? fun thing => decide (name thing = name other)).isSome := by
      rw [List.find?_isSome]
      exact ⟨other, hother, decide_eq_true rfl⟩
    obtain ⟨last, hlast⟩ := Option.isSome_iff_exists.mp hsome
    rw [latest, List.find?_cons, decide_eq_false fun heq => hname heq.symm, hlast] at hkey
    obtain ⟨single, hsingle⟩ := List.length_eq_one_iff.mp hkey
    have hmem : single ∈ named name place (thing :: history) (name other) := by
      rw [hsingle]
      exact List.mem_singleton_self single
    obtain ⟨hfind, hsingleName⟩ := mem_named.mp hmem
    rw [List.find?_cons] at hfind
    by_cases heq : place thing = place single
    · rw [decide_eq_true heq] at hfind
      rw [← Option.some.inj hfind] at hsingleName
      exact hname hsingleName.symm
    · rw [decide_eq_false heq] at hfind
      have hsinglePlace := (agree_of_pairwise h (List.mem_of_find?_eq_some hfind) hother).mp
        hsingleName
      exact heq (hplace.symm.trans hsinglePlace.symm)

end

end FrametimeCfg.Lib.Shelves
