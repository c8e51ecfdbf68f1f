import CrateAtlas.FileTree

/-!
# Paths without links

`FileTree.resolve` gives the path that another one stands for, without links and dots.  It looks up
one link after the other, however many there are, and goes on where nothing is to be found.  A link
that is met again while its own target is still being followed leads round in circles; what is left
of the path then is taken as it is written.

To open a path and to resolve it are different walks: the first comes to an end after so many links
and stops at the first obstacle, the second does neither.  **Where the first one gets through, they
lead to the same location** (`FileTree.target_of_locate`).  The argument is about `FileTree.Leads`,
which says where components lead and through how many links: a link that is met while its own target
is followed would have to lead through more links than it does.
-/

set_option autoImplicit false

namespace CrateAtlas.FileTree

/-! ## Resolving -/

/-- Whether a location can be looked up: its names are short enough, and all directories above it
can be searched. -/
def isOpen (t : FileTree) (l : Location) : Bool :=
  l.all fits && (List.range l.length).all fun n => (t.barrier? (l.take n)).isNone

/-- The target of the link that a program finds at a location. -/
def linkSeen? (t : FileTree) (l : Location) : Option String :=
  if t.isOpen l then t.linkAt? l else none

/-- The locations of the links. -/
def links (t : FileTree) : List Location :=
  (t.entries.map Prod.fst).filter fun l => (t.linkAt? l).isSome

/-- The links other than one. -/
def others (l : Location) (links : List Location) : List Location := links.filter (· ≠ l)

theorem length_others_lt {l : Location} {links : List Location} (h : l ∈ links) :
    (others l links).length < links.length :=
  List.length_filter_lt_length_iff_exists.2 ⟨l, h, by simp⟩

/-- Components as they are written, seen from a location. -/
def lexical (parts : List String) (l : Location) : Location :=
  parts.foldl (fun l part =>
    if part = "." then l else if part = ".." then l.dropLast else l ++ [part]) l

/-- Resolves components from a location.  The links in `idle` are those whose targets are not being
followed already; to meet any other one is an error, with the location as far as it is known. -/
def follow (t : FileTree) (idle : List Location) (parts : List String) (l : Location) :
    Except Location Location :=
  match parts with
  | [] => .ok l
  | part :: rest =>
    if part = "." then t.follow idle rest l
    else if part = ".." then t.follow idle rest l.dropLast
    else
      match t.linkSeen? (l ++ [part]) with
      | none => t.follow idle rest (l ++ [part])
      | some target =>
        if _h : idle.contains (l ++ [part]) then
          match t.follow (others (l ++ [part]) idle) (targetParts target) (targetBase target l) with
          | .error m => .error (lexical rest m)
          | .ok m => t.follow idle rest m
        else .error (lexical rest (l ++ [part]))
termination_by (idle.length, parts.length)
decreasing_by
  all_goals first
    | exact .right _ (Nat.lt_succ_self _)
    | exact .left _ _ (length_others_lt (List.contains_iff_mem.1 _h))

/-- The location that a path stands for. -/
def target (t : FileTree) (p : Path) : Location :=
  match t.follow t.links (t.trail p) [] with
  | .ok l | .error l => l

/-- The path of the location that a path stands for. -/
def resolve (t : FileTree) (p : Path) : Path := .ofLocation (t.target p)

/-- Whether a path leads round in circles, even when it is resolved as far as possible. -/
def loops (t : FileTree) (p : Path) : Bool :=
  match t.locate (t.resolve p) with
  | .error .tooManyLinks => true
  | _ => false

/-- Puts an entry at a path and makes the directories on the way to it. -/
def create (t : FileTree) (p : Path) (e : Entry) : FileTree :=
  let parent := t.target p.parent
  let t := t.makeDirectories parent
  match e with
  | .directory => t.makeDirectories (parent ++ [p.name])
  | e => t.put (parent ++ [p.name]) e

/-! ## Where components lead -/

/-- **Where components lead from a location**, and through how many links. -/
inductive Leads (t : FileTree) : List String → Location → Location → Nat → Prop
  | nil {l : Location} : Leads t [] l l 0
  | dot {part : String} {rest : List String} {l m : Location} {n : Nat}
    (hopen : t.barrier? l = none) (hpart : part = ".") (hrest : Leads t rest l m n) :
    Leads t (part :: rest) l m n
  | up {part : String} {rest : List String} {l m : Location} {n : Nat}
    (hopen : t.barrier? l = none) (hpart : part = "..") (hrest : Leads t rest l.dropLast m n) :
    Leads t (part :: rest) l m n
  | name {part : String} {rest : List String} {l m : Location} {n : Nat}
    (hopen : t.barrier? l = none) (hdot : part ≠ ".") (hup : part ≠ "..")
    (hfits : fits part = true) (hlink : t.linkAt? (l ++ [part]) = none)
    (hrest : Leads t rest (l ++ [part]) m n) : Leads t (part :: rest) l m n
  | link {part target : String} {rest : List String} {l k m : Location} {n n' : Nat}
    (hopen : t.barrier? l = none) (hdot : part ≠ ".") (hup : part ≠ "..")
    (hfits : fits part = true) (hlink : t.linkAt? (l ++ [part]) = some target)
    (htarget : Leads t (targetParts target) (targetBase target l) k n)
    (hrest : Leads t rest k m n') : Leads t (part :: rest) l m (n + n' + 1)

namespace Leads

variable {t : FileTree} {parts : List String} {l m m' : Location} {n n' : Nat}

/-- Components lead through those at the front and then through the others. -/
theorem exists_of_append {before after : List String} (h : Leads t (before ++ after) l m n) :
    ∃ k i j, Leads t before l k i ∧ Leads t after k m j ∧ n = i + j := by
  induction before generalizing l n with
  | nil => exact ⟨l, 0, n, .nil, h, (Nat.zero_add n).symm⟩
  | cons part before ih =>
    cases h with
    | dot hopen hpart hrest =>
      obtain ⟨k, i, j, hbefore, hafter, hn⟩ := ih hrest
      exact ⟨k, i, j, .dot hopen hpart hbefore, hafter, hn⟩
    | up hopen hpart hrest =>
      obtain ⟨k, i, j, hbefore, hafter, hn⟩ := ih hrest
      exact ⟨k, i, j, .up hopen hpart hbefore, hafter, hn⟩
    | name hopen hdot hup hfits hlink hrest =>
      obtain ⟨k, i, j, hbefore, hafter, hn⟩ := ih hrest
      exact ⟨k, i, j, .name hopen hdot hup hfits hlink hbefore, hafter, hn⟩
    | link hopen hdot hup hfits hlink htarget hrest =>
      obtain ⟨k, i, j, hbefore, hafter, rfl⟩ := ih hrest
      exact ⟨k, _, j, .link hopen hdot hup hfits hlink htarget hbefore, hafter, by omega⟩

/-- Components lead to one location only, and always through as many links. -/
theorem unique (h : Leads t parts l m n) (h' : Leads t parts l m' n') : m = m' ∧ n = n' := by
  induction h generalizing m' n' with
  | nil =>
    cases h'
    exact ⟨rfl, rfl⟩
  | dot hopen hpart hrest ih =>
    cases h' with
    | dot _ _ hrest' => exact ih hrest'
    | up _ hpart' => exact absurd (hpart.symm.trans hpart') (by decide)
    | name _ hdot => exact absurd hpart hdot
    | link _ hdot => exact absurd hpart hdot
  | up hopen hpart hrest ih =>
    cases h' with
    | dot _ hpart' => exact absurd (hpart.symm.trans hpart') (by decide)
    | up _ _ hrest' => exact ih hrest'
    | name _ _ hup => exact absurd hpart hup
    | link _ _ hup => exact absurd hpart hup
  | name hopen hdot hup hfits hlink hrest ih =>
    cases h' with
    | dot _ hpart => exact absurd hpart hdot
    | up _ hpart => exact absurd hpart hup
    | name _ _ _ _ _ hrest' => exact ih hrest'
    | link _ _ _ _ hlink' => exact absurd (hlink.symm.trans hlink') (by simp)
  | link hopen hdot hup hfits hlink htarget hrest ihtarget ihrest =>
    cases h' with
    | dot _ hpart => exact absurd hpart hdot
    | up _ hpart => exact absurd hpart hup
    | name _ _ _ _ hlink' => exact absurd (hlink.symm.trans hlink') (by simp)
    | link _ _ _ _ hlink' htarget' hrest' =>
      obtain rfl := Option.some.inj (hlink.symm.trans hlink')
      obtain ⟨rfl, rfl⟩ := ihtarget htarget'
      obtain ⟨rfl, rfl⟩ := ihrest hrest'
      exact ⟨rfl, rfl⟩

end Leads

variable {t : FileTree} {p : Path} {l m : Location}

/-- A walk that gets through leads somewhere. -/
theorem leads_of_walk {links : Nat} {parts : List String} (h : t.walk links parts l = .ok m) :
    ∃ n, Leads t parts l m n := by
  fun_induction walk t links parts l with
  | case1 =>
    cases h
    exact ⟨0, .nil⟩
  | case2 => cases h
  | case3 _ _ _ hopen ih =>
    obtain ⟨n, hn⟩ := ih h
    exact ⟨n, .dot hopen rfl hn⟩
  | case4 _ _ _ hopen _ ih =>
    obtain ⟨n, hn⟩ := ih h
    exact ⟨n, .up hopen rfl hn⟩
  | case5 _ _ _ _ hopen hdot hup hfits hlink ih =>
    obtain ⟨n, hn⟩ := ih h
    exact ⟨n, .name hopen hdot hup hfits hlink hn⟩
  | case6 => cases h
  | case7 _ _ _ hopen hdot hup hfits target hlink _ ih =>
    obtain ⟨n, hn⟩ := ih h
    obtain ⟨k, i, j, htarget, hrest, -⟩ := hn.exists_of_append
    exact ⟨_, .link hopen hdot hup hfits hlink htarget hrest⟩
  | case8 => cases h

/-! ## Locations that can be reached -/

/-- A location that a walk can come to: all directories above it can be searched, and no link is on
the way. -/
def Plain (t : FileTree) (l : Location) : Prop :=
  ∀ above name below, l = above ++ name :: below →
    t.barrier? above = none ∧ name ≠ "." ∧ name ≠ ".." ∧ fits name = true ∧
      t.linkAt? (above ++ [name]) = none

namespace Plain

theorem top (t : FileTree) : Plain t [] := by
  intro above name below h
  simp at h

theorem of_append {below : Location} (h : Plain t (l ++ below)) : Plain t l := by
  intro above name rest hl
  exact h above name (rest ++ below) (by simp [hl])

theorem dropLast (h : Plain t l) : Plain t l.dropLast := by
  rcases List.eq_nil_or_concat l with rfl | ⟨l, name, rfl⟩
  · exact h
  · rw [List.concat_eq_append] at h ⊢
    rw [List.dropLast_concat]
    exact h.of_append

theorem concat {part : String} (h : Plain t l) (hopen : t.barrier? l = none) (hdot : part ≠ ".")
    (hup : part ≠ "..") (hfits : fits part = true) (hlink : t.linkAt? (l ++ [part]) = none) :
    Plain t (l ++ [part]) := by
  intro above name below hl
  rcases List.eq_nil_or_concat below with rfl | ⟨below, last, rfl⟩
  · obtain ⟨rfl, hpart⟩ := List.append_inj' hl rfl
    obtain rfl := (List.cons.inj hpart).1
    exact ⟨hopen, hdot, hup, hfits, hlink⟩
  · refine h above name below ?_
    rw [List.concat_eq_append, ← List.cons_append, ← List.append_assoc] at hl
    exact (List.append_inj' hl rfl).1

theorem targetBase (target : String) (h : Plain t l) : Plain t (targetBase target l) := by
  rw [FileTree.targetBase]
  split
  · exact h
  · exact .top t

theorem fits_of_mem {name : String} (h : Plain t l) (hname : name ∈ l) : fits name = true := by
  obtain ⟨above, below, rfl⟩ := List.append_of_mem hname
  obtain ⟨-, -, -, hfits, -⟩ := h above name below rfl
  exact hfits

theorem barrier?_take {n : Nat} (h : Plain t l) (hn : n < l.length) :
    t.barrier? (l.take n) = none := by
  refine (h (l.take n) l[n] (l.drop (n + 1)) ?_).1
  rw [← List.drop_eq_getElem_cons hn, List.take_append_drop]

/-- What lies in a plain directory that can be searched can be looked up. -/
theorem isOpen_concat {part : String} (h : Plain t l) (hopen : t.barrier? l = none)
    (hfits : fits part = true) : t.isOpen (l ++ [part]) = true := by
  simp only [isOpen, Bool.and_eq_true, List.all_eq_true, List.mem_range, List.length_append,
    List.length_singleton, List.mem_append, List.mem_singleton, Option.isNone_iff_eq_none]
  refine ⟨?_, fun n hn => ?_⟩
  · rintro name (hname | rfl)
    · exact h.fits_of_mem hname
    · exact hfits
  · rw [List.take_append_of_le_length (by omega)]
    rcases Nat.lt_or_eq_of_le (Nat.le_of_lt_succ hn) with hlt | rfl
    · exact h.barrier?_take hlt
    · rw [List.take_length]
      exact hopen

end Plain

theorem mem_links_of_linkAt? {target : String} (h : t.linkAt? l = some target) : l ∈ t.links := by
  refine List.mem_filter.2 ⟨?_, by rw [h]; rfl⟩
  unfold linkAt? at h
  split at h
  · rename_i hentry
    exact List.mem_map_of_mem (mem_entries_of_entryAt? hentry (by simp))
  · cases h

/-- A walk leads from plain locations to plain ones. -/
theorem Leads.plain {parts : List String} {n : Nat} (h : Leads t parts l m n) (hl : Plain t l) :
    Plain t m := by
  induction h with
  | nil => exact hl
  | dot _ _ _ ih => exact ih hl
  | up _ _ _ ih => exact ih hl.dropLast
  | name hopen hdot hup hfits hlink _ ih => exact ih (hl.concat hopen hdot hup hfits hlink)
  | link _ _ _ _ _ _ _ ihtarget ihrest => exact ihrest (ihtarget (hl.targetBase _))

/-- **What components lead to is what they resolve to.**  The links that are being followed already
are those whose targets lead through at least as many links as there are still to come, so none of
them is met again. -/
theorem Leads.follow_eq {parts : List String} {n : Nat} {idle : List Location}
    (h : Leads t parts l m n) (hl : Plain t l)
    (hbusy : ∀ k target, t.linkAt? k = some target → k ∉ idle →
      ∃ e c, Leads t (targetParts target) (FileTree.targetBase target k.dropLast) e c ∧ n ≤ c) :
    t.follow idle parts l = .ok m := by
  induction h generalizing idle with
  | nil => rw [follow]
  | dot _ hpart _ ih =>
    rw [follow, if_pos hpart]
    exact ih hl hbusy
  | up _ hpart _ ih =>
    rw [follow, if_neg (by rw [hpart]; decide), if_pos hpart]
    exact ih hl.dropLast hbusy
  | @name part _ l _ _ hopen hdot hup hfits hlink _ ih =>
    have hseen : t.linkSeen? (l ++ [part]) = none := by
      rw [linkSeen?, if_pos (hl.isOpen_concat hopen hfits), hlink]
    rw [follow, if_neg hdot, if_neg hup, hseen]
    exact ih (hl.concat hopen hdot hup hfits hlink) hbusy
  | @link part target rest l k m n n' hopen hdot hup hfits hlink htarget hrest ihtarget ihrest =>
    have hseen : t.linkSeen? (l ++ [part]) = some target := by
      rw [linkSeen?, if_pos (hl.isOpen_concat hopen hfits), hlink]
    have hidle : l ++ [part] ∈ idle := by
      refine Decidable.byContradiction fun hmem => ?_
      obtain ⟨e, c, hleads, hc⟩ := hbusy _ _ hlink hmem
      rw [List.dropLast_concat] at hleads
      have := (htarget.unique hleads).2
      omega
    have hinner : t.follow (others (l ++ [part]) idle) (targetParts target)
        (FileTree.targetBase target l) = .ok k := by
      refine ihtarget (hl.targetBase target) fun j target' hlink' hmem => ?_
      by_cases hj : j = l ++ [part]
      · subst hj
        obtain rfl := Option.some.inj (hlink.symm.trans hlink')
        exact ⟨k, n, by rwa [List.dropLast_concat], Nat.le_refl n⟩
      · obtain ⟨e, c, hleads, hc⟩ := hbusy j target' hlink' fun h =>
          hmem (List.mem_filter.2 ⟨h, by simpa using hj⟩)
        exact ⟨e, c, hleads, by omega⟩
    rw [follow, if_neg hdot, if_neg hup, hseen]
    simp only [dif_pos (List.contains_iff_mem.2 hidle), hinner]
    refine ihrest (htarget.plain (hl.targetBase target)) fun j target' hlink' hmem => ?_
    obtain ⟨e, c, hleads, hc⟩ := hbusy j target' hlink' hmem
    exact ⟨e, c, hleads, by omega⟩

/-! ## Opening and resolving -/

theorem leads_of_locate (h : t.locate p = .ok l) : ∃ n, Leads t (t.trail p) [] l n := by
  rw [locate] at h
  cases hlong : isOverlong p with
  | true => simp [hlong] at h
  | false => exact leads_of_walk (by simpa [hlong] using h)

/-- A location that a path leads to is plain. -/
theorem plain_of_locate (h : t.locate p = .ok l) : Plain t l := by
  obtain ⟨n, hleads⟩ := leads_of_locate h
  exact hleads.plain (.top t)

/-- **A path that can be opened stands for the location that it leads to.** -/
theorem target_of_locate (h : t.locate p = .ok l) : t.target p = l := by
  obtain ⟨n, hleads⟩ := leads_of_locate h
  have hfollow : t.follow t.links (t.trail p) [] = .ok l :=
    hleads.follow_eq (.top t) fun k target hlink hmem => absurd (mem_links_of_linkAt? hlink) hmem
  rw [target, hfollow]

theorem resolve_of_locate (h : t.locate p = .ok l) : t.resolve p = .ofLocation l := by
  rw [resolve, target_of_locate h]

/-- A walk along a plain location gets through. -/
theorem walk_of_plain {links : Nat} {above below : Location} (h : Plain t (above ++ below)) :
    t.walk links below above = .ok (above ++ below) := by
  induction below generalizing above with
  | nil => rw [walk, List.append_nil]
  | cons name below ih =>
    obtain ⟨hopen, hdot, hup, hfits, hlink⟩ := h above name below rfl
    rw [walk]
    simp only [hopen, if_neg hdot, if_neg hup, if_pos hfits, hlink]
    have happend : above ++ [name] ++ below = above ++ name :: below := by simp
    rw [ih (happend ▸ h), happend]

/-- A location that can be reached can be opened under its own path, unless that is too long. -/
theorem locate_ofLocation (h : Plain t l) :
    t.locate (.ofLocation l) =
      bif isOverlong (.ofLocation l) then .error .nameTooLong else .ok l := by
  have htrail : t.trail (.ofLocation l) = l := rfl
  have hwalk : t.walk linkLimit l [] = .ok ([] ++ l) := walk_of_plain h
  rw [locate, htrail, hwalk, List.nil_append]

/-- A path that can be opened does not lead round in circles. -/
theorem loops_of_locate (h : t.locate p = .ok l) : t.loops p = false := by
  rw [loops, resolve_of_locate h, locate_ofLocation (plain_of_locate h)]
  cases isOverlong (.ofLocation l) <;> rfl

/-- What can be read stands for the location of a file. -/
theorem mem_files_of_read {octets : List Nat} (h : t.read p = .ok octets) :
    t.target p ∈ t.files := by
  obtain ⟨l, hlocate, hentry, -⟩ := read_eq_ok h
  rw [target_of_locate hlocate]
  exact mem_files_of_entryAt? hentry

end CrateAtlas.FileTree
