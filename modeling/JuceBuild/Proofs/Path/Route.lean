import JuceBuild.Path.Lexical
import JuceBuild.Proofs.Path.Text
import Mathlib.Data.List.Basic

/-!
# Routes between places

A route climbs from one place to where it parts from the other, and descends from there. So it is a
number of `..` with names behind them, and following it from the first place leads to the second. No
route of that form with fewer `..` does: the names behind it would have to repeat what the two
places have in common further down, and they part at the last place they share.
-/

namespace JuceBuild

/-- A component that names something in a directory. -/
def IsName (part : String) : Prop := part ≠ "" ∧ part ≠ "." ∧ part ≠ ".." ∧ '/' ∉ part.toList

theorem IsName.component {part : String} (hname : IsName part) :
    part ≠ "" ∧ part ≠ "." ∧ '/' ∉ part.toList :=
  ⟨hname.1, hname.2.1, hname.2.2.2⟩

/-- All components are names. -/
def Place.Canonical (place : Place) : Prop := ∀ part ∈ place, IsName part

namespace Place

variable {source target : Place}

/-! ### Climbing and descending -/

theorem foldl_step_climb (place : Place) (count : Nat) :
    (List.replicate count "..").foldl step place = place.take (place.length - count) := by
  induction count generalizing place with
  | zero => simp
  | succ count ih =>
      rw [List.replicate_succ, List.foldl_cons, step, if_pos rfl, ih, List.length_dropLast,
        List.dropLast_eq_take, List.take_take]
      congr 1
      omega

theorem foldl_step_descend (place : Place) {names : List String} (hnames : ".." ∉ names) :
    names.foldl step place = place ++ names := by
  induction names generalizing place with
  | nil => exact (List.append_nil place).symm
  | cons part names ih =>
      rw [List.mem_cons, not_or] at hnames
      rw [List.foldl_cons, step, if_neg (Ne.symm hnames.1), ih _ hnames.2, List.append_assoc]
      rfl

/-- What a climb with names behind it leads to. -/
theorem foldl_step_climb_descend (place : Place) (count : Nat) {names : List String}
    (hnames : ".." ∉ names) :
    (List.replicate count ".." ++ names).foldl step place
      = place.take (place.length - count) ++ names := by
  rw [List.foldl_append, foldl_step_climb, foldl_step_descend _ hnames]

/-! ### The shape of a route -/

/-- What two places have in common, and what comes after it in each: the shared part is the longest
there is, and the route climbs what is left of the first place and descends what is left of the
second. -/
structure Parting (source target shared up down : Place) : Prop where
  source_eq : source = shared ++ up
  target_eq : target = shared ++ down
  longest : ∀ start : Place, start <+: source → start <+: target → start.length ≤ shared.length
  route_eq : source.route target = List.replicate up.length ".." ++ down

theorem exists_parting (source target : Place) :
    ∃ shared up down, Parting source target shared up down := by
  induction source generalizing target with
  | nil =>
      refine ⟨[], [], target, rfl, rfl, fun start hsource _ => hsource.length_le, ?_⟩
      cases target <;> rfl
  | cons a source ih =>
      cases target with
      | nil =>
          refine ⟨[], a :: source, [], rfl, rfl, fun start _ htarget => htarget.length_le, ?_⟩
          rw [route, List.map_const']
          exact nofun
      | cons b target =>
          by_cases hab : a = b
          · subst hab
            obtain ⟨shared, up, down, rfl, rfl, hlongest, hroute⟩ := ih target
            refine ⟨a :: shared, up, down, rfl, rfl, fun start hsource htarget => ?_, ?_⟩
            · cases start with
              | nil => exact Nat.zero_le _
              | cons c start =>
                  rw [List.cons_prefix_cons] at hsource htarget
                  exact Nat.succ_le_succ (hlongest start hsource.2 htarget.2)
            · rw [route, if_pos rfl, hroute]
          · refine ⟨[], a :: source, b :: target, rfl, rfl, fun start hsource htarget => ?_, ?_⟩
            · cases start with
              | nil => exact Nat.zero_le _
              | cons c start =>
                  rw [List.cons_prefix_cons] at hsource htarget
                  exact absurd (hsource.1.symm.trans htarget.1) hab
            · rw [route, if_neg hab, List.map_const']

variable {shared up down : Place}

/-- **A route leads from the first place to the second.** -/
theorem Parting.foldl_step (hparting : Parting source target shared up down)
    (htarget : ".." ∉ target) :
    (List.replicate up.length ".." ++ down).foldl step source = target := by
  obtain ⟨rfl, rfl, -, -⟩ := hparting
  rw [List.mem_append, not_or] at htarget
  rw [foldl_step_climb_descend _ _ htarget.2, List.length_append, Nat.add_sub_cancel,
    List.take_left]

/-- **No shorter climb will do.** -/
theorem Parting.foldl_step_ne (hparting : Parting source target shared up down) {count : Nat}
    (hcount : count < up.length) {names : List String} (hnames : ".." ∉ names) :
    (List.replicate count ".." ++ names).foldl step source ≠ target := by
  intro hsame
  rw [foldl_step_climb_descend _ _ hnames] at hsame
  have hlongest := hparting.longest (source.take (source.length - count)) (List.take_prefix _ _)
    (hsame ▸ List.prefix_append _ _)
  rw [hparting.source_eq, List.length_take, List.length_append] at hlongest
  omega

/-- The components of a route are `..` and names of the place that it leads to. -/
theorem mem_route {part : String}
    (hpart : part ∈ source.route target) : part = ".." ∨ part ∈ target := by
  obtain ⟨shared, up, down, rfl, rfl, -, hroute⟩ := exists_parting source target
  rw [hroute, List.mem_append] at hpart
  rcases hpart with hpart | hpart
  · exact .inl (List.eq_of_mem_replicate hpart)
  · exact .inr (List.mem_append_right shared hpart)

/-! ### Canonical places -/

theorem Canonical.notMem_up (hsource : source.Canonical) : ".." ∉ source :=
  fun hup => (hsource ".." hup).2.2.1 rfl

theorem Canonical.wellFormed_path (hsource : source.Canonical) : source.path.WellFormed :=
  fun part hpart => (hsource part hpart).component

/-- A step along a component of a path keeps to names. -/
theorem Canonical.step (hsource : source.Canonical) {part : String}
    (hpart : part ≠ "" ∧ part ≠ "." ∧ '/' ∉ part.toList) : (source.step part).Canonical := by
  rw [Place.step]
  split
  · exact fun other hother => hsource other (List.dropLast_subset source hother)
  · rename_i hup
    intro other hother
    rw [List.mem_append, List.mem_singleton] at hother
    rcases hother with hother | rfl
    · exact hsource other hother
    · exact ⟨hpart.1, hpart.2.1, hup, hpart.2.2⟩

end Place

namespace Path

/-- A path that was read from a text collapses onto a place of names. -/
theorem WellFormed.canonical_collapse {path : Path} (hpath : path.WellFormed) {cwd : Place}
    (hcwd : cwd.Canonical) : (path.collapse cwd).Canonical := by
  have hstart : Place.Canonical (path.start cwd) := by
    rw [start]
    split
    · exact nofun
    · exact hcwd
  obtain ⟨anchor, parts⟩ := path
  rw [collapse]
  generalize start _ cwd = place at hstart
  induction parts generalizing place with
  | nil => exact hstart
  | cons part parts ih =>
      refine ih (fun other hother => hpath other (List.mem_cons_of_mem part hother)) _ ?_
      exact hstart.step (hpath part List.mem_cons_self)

theorem WellFormed.join {base path : Path} (hbase : base.WellFormed) (hpath : path.WellFormed) :
    (base.join path).WellFormed := by
  rw [Path.join]
  split
  · exact hpath
  · intro part hpart
    rcases List.mem_append.mp hpart with hpart | hpart
    · exact hbase part hpart
    · exact hpath part hpart

/-- The text of a route is read back as its components. -/
theorem partsOf_routeText {route : List String}
    (hroute : ∀ part ∈ route, part ≠ "" ∧ part ≠ "." ∧ '/' ∉ part.toList) :
    partsOf (routeText route).toList = route := by
  cases route with
  | nil => exact partsOf_dot
  | cons part parts => exact partsOf_join hroute

theorem partsOf_route {target : Place} (htarget : target.Canonical) (source : Place) :
    partsOf (routeText (source.route target)).toList = source.route target := by
  refine partsOf_routeText fun part hpart => ?_
  rcases Place.mem_route hpart with rfl | hpart
  · decide
  · exact (htarget part hpart).component

end Path

theorem notMem_routeText {c : Char} {route : List String} (hslash : c ≠ '/') (hdot : c ≠ '.')
    (hroute : ∀ part ∈ route, c ∉ part.toList) : c ∉ (routeText route).toList := by
  cases route with
  | nil => simpa [routeText] using hdot
  | cons part parts => exact Text.notMem_join (by simpa using hslash) hroute

end JuceBuild
