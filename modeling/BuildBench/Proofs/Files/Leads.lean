import BuildBench.Files.Walk
import BuildBench.Proofs.Files.TreeKinds

/-!
# Where path names lead

A walk that arrives somewhere is a derivation: each rule is one component of the name, and a link is
one premise that starts anew at its target. Facts about walks are inductions over such derivations.
Whether a walk arrives, and where, depends only on the kinds of the entries that it looks at.
-/

namespace BuildBench

/-- A component that names an entry of a folder. -/
structure IsProperName (name : String) : Prop where
  notDot : name ≠ "."
  notUp : name ≠ ".."
  short : isLongName name = false

namespace Folder

variable {root other : Folder} {last : Bool} {links : Nat} {here goal : Location}
  {parts rest : List String} {name : String}

/-- The kind is read off the entry. -/
theorem kind?_of_at? {e : Entry} (held : root.at? here = some e) :
    root.kind? here = some e.node.kind := by
  simp [kind?, node?, held]

/-- Where there is no entry there is no kind. -/
theorem kind?_eq_none : root.kind? here = none ↔ root.at? here = none := by
  simp [kind?, node?]

/-- By the kind of the entry. -/
theorem at?_of_kind?_folder (opened : root.kind? here = some .folder) :
    ∃ f : Folder, root.at? here = some (.folder f) := by
  cases held : root.at? here with
  | none => simp [kind?, node?, held] at opened
  | some e =>
    cases e with
    | folder f => exact ⟨f, rfl⟩
    | _ => simp [kind?, node?, held, Entry.node, Node.kind] at opened

/-- By the kind of the entry. -/
theorem at?_of_kind?_link {target : String} (found : root.kind? here = some (.link target)) :
    root.at? here = some (.link target) := by
  cases held : root.at? here with
  | none => simp [kind?, node?, held] at found
  | some e =>
    cases e with
    | link s => simpa [kind?, node?, held, Entry.node, Node.kind] using found
    | _ => simp [kind?, node?, held, Entry.node, Node.kind] at found

/-- One step down from the folder. -/
theorem at?_child {f : Folder} (held : root.at? here = some (.folder f)) (name : String) :
    root.at? (here ++ [name]) = f.lookup name := by
  rw [at?_append, held, Option.bind_some, Entry.at?, at?_cons]
  cases f.lookup name <;> simp

/-- What is above an entry is a folder. -/
theorem kind?_above {below : Location} (deeper : below ≠ [])
    (found : root.kind? (here ++ below) ≠ none) : root.kind? here = some .folder := by
  have above : root.node? here = some .folder :=
    node?_above deeper fun missing => found (by simp [kind?, missing])
  simp [kind?, above, Node.kind]

/-- Something stands in it, so it is a folder. -/
theorem kind?_of_child {kind : Kind} (found : root.kind? (here ++ [name]) = some kind) :
    root.kind? here = some .folder :=
  kind?_above (List.cons_ne_nil name []) (by simp [found])

/-- A location where a walk ends when no component is left behind it. -/
def Stops (root : Folder) (last : Bool) (location : Location) : Prop :=
  root.kind? location ≠ some .folder ∧
    ∀ target, root.kind? location = some (.link target) → last = false

/-- Some components lead from a folder to a location. Its entry may be missing. -/
inductive Leads (root : Folder) (last : Bool) : Nat → Location → List String → Location → Prop
  | here {links : Nat} {location : Location} (found : root.kind? location ≠ none) :
    Leads root last (links + 1) location [] location
  | dot {links : Nat} {here goal : Location} {rest : List String}
    (opened : root.kind? here = some .folder) (next : Leads root last (links + 1) here rest goal) :
    Leads root last (links + 1) here ("." :: rest) goal
  | up {links : Nat} {here goal : Location} {rest : List String}
    (opened : root.kind? here = some .folder)
    (next : Leads root last (links + 1) here.dropLast rest goal) :
    Leads root last (links + 1) here (".." :: rest) goal
  | into {links : Nat} {here goal : Location} {name : String} {rest : List String}
    (proper : IsProperName name) (opened : root.kind? (here ++ [name]) = some .folder)
    (next : Leads root last (links + 1) (here ++ [name]) rest goal) :
    Leads root last (links + 1) here (name :: rest) goal
  | stop {links : Nat} {here : Location} {name : String} (proper : IsProperName name)
    (opened : root.kind? here = some .folder) (stops : root.Stops last (here ++ [name])) :
    Leads root last (links + 1) here [name] (here ++ [name])
  | follow {links : Nat} {here goal : Location} {name target : String} {rest : List String}
    (proper : IsProperName name) (found : root.kind? (here ++ [name]) = some (.link target))
    (further : rest ≠ [] ∨ last = true) (aimed : target ≠ "")
    (next : Leads root last links (targetBase here target) (targetComponents target ++ rest) goal) :
    Leads root last (links + 1) here (name :: rest) goal

/-- One component of a walk from a folder. -/
theorem stepAlong_cons {follow : Location → List String → Except SystemError Place} {f : Folder}
    (held : root.at? here = some (.folder f)) (proper : IsProperName name) :
    root.stepAlong last follow here (name :: rest) =
      match root.at? (here ++ [name]) with
      | none => if rest.isEmpty then .ok ⟨here ++ [name], none⟩ else .error .notFound
      | some (.folder _) => root.stepAlong last follow (here ++ [name]) rest
      | some (.link target) =>
        if rest.isEmpty && !last then .ok ⟨here ++ [name], some (.link target)⟩
        else if target.isEmpty then .error .notFound
        else follow (targetBase here target) (targetComponents target ++ rest)
      | some (.file content executable) =>
        if rest.isEmpty then .ok ⟨here ++ [name], some (.file content executable)⟩
        else .error .notDirectory := by
  rcases found : root.at? (here ++ [name]) with _ | _ | _ | _ <;> rw [at?_child held] at found <;>
    simp only [stepAlong, held, found, proper.notDot, proper.notUp, proper.short, if_false,
      Bool.false_eq_true]

/-- A component that names an entry enters it, ends there, or follows it. -/
theorem stepAlong_cons_ok {follow : Location → List String → Except SystemError Place} {f : Folder}
    {place : Place} (held : root.at? here = some (.folder f)) (proper : IsProperName name)
    (stepped : root.stepAlong last follow here (name :: rest) = .ok place) :
    (root.kind? (here ++ [name]) = some .folder ∧
      root.stepAlong last follow (here ++ [name]) rest = .ok place) ∨
    (rest = [] ∧ root.Stops last (here ++ [name]) ∧
      place = ⟨here ++ [name], root.at? (here ++ [name])⟩) ∨
    (∃ target, root.kind? (here ++ [name]) = some (.link target) ∧ (rest ≠ [] ∨ last = true) ∧
      target ≠ "" ∧
      follow (targetBase here target) (targetComponents target ++ rest) = .ok place) := by
  rw [stepAlong_cons held proper] at stepped
  rcases found : root.at? (here ++ [name]) with _ | ⟨content, executable⟩ | target | inner <;>
    simp only [found] at stepped
  · split at stepped
    · next ends =>
      cases stepped
      exact .inr (.inl ⟨List.isEmpty_iff.mp ends, by simp [Stops, kind?_eq_none.mpr found], rfl⟩)
    · cases stepped
  · split at stepped
    · next ends =>
      cases stepped
      have stops : root.Stops last (here ++ [name]) := by
        simp [Stops, kind?_of_at? found, Entry.node, Node.kind]
      exact .inr (.inl ⟨List.isEmpty_iff.mp ends, stops, rfl⟩)
    · cases stepped
  · have link : root.kind? (here ++ [name]) = some (.link target) := kind?_of_at? found
    split at stepped
    · next ends =>
      cases stepped
      rw [Bool.and_eq_true, List.isEmpty_iff, Bool.not_eq_true'] at ends
      exact .inr (.inl ⟨ends.1, ⟨by simp [link], fun _ _ => ends.2⟩, rfl⟩)
    · next goesOn =>
      split at stepped
      · cases stepped
      · next aimed =>
        have further : rest ≠ [] ∨ last = true := by
          rw [Bool.and_eq_true, List.isEmpty_iff, Bool.not_eq_true'] at goesOn
          cases last <;> simp_all
        exact .inr (.inr ⟨target, link, further, by simpa using aimed, stepped⟩)
  · exact .inl ⟨kind?_of_at? found, stepped⟩

/-- By induction on the links that may be followed, and within it on the components: each step of
the walk is one rule. -/
theorem leads_of_walk {e : Option Entry}
    (walked : root.walk last links here parts = .ok ⟨goal, e⟩) :
    Leads root last links here parts goal ∧ e = root.at? goal := by
  induction links generalizing here parts with
  | zero => cases walked
  | succ links follows =>
    rw [walk] at walked
    induction parts generalizing here with
    | nil =>
      rw [stepAlong] at walked
      split at walked
      · next inner held =>
        cases walked
        exact ⟨.here (by simp [kind?_of_at? held]), held.symm⟩
      · cases walked
    | cons name rest ih =>
      -- Only a folder has components below it.
      rcases held : root.at? here with _ | ⟨content, executable⟩ | target | f
      · rw [stepAlong, held] at walked
        cases walked
      · rw [stepAlong, held] at walked
        cases walked
      · rw [stepAlong, held] at walked
        cases walked
      have opened : root.kind? here = some .folder := kind?_of_at? held
      by_cases isDot : name = "."
      · subst isDot
        rw [stepAlong, held] at walked
        exact (ih walked).imp_left (.dot opened)
      by_cases isUp : name = ".."
      · subst isUp
        rw [stepAlong, held] at walked
        exact (ih walked).imp_left (.up opened)
      by_cases long : isLongName name = true
      · rw [stepAlong, held] at walked
        simp [isDot, isUp, long] at walked
      have proper : IsProperName name := ⟨isDot, isUp, by simpa using long⟩
      obtain ⟨inner, entered⟩ | ⟨rfl, stops, same⟩ | ⟨target, found, further, aimed, followed⟩ :=
        stepAlong_cons_ok held proper walked
      · exact (ih entered).imp_left (.into proper inner)
      · cases same
        exact ⟨.stop proper opened stops, rfl⟩
      · exact (follows followed).imp_left (.follow proper found further aimed)

/-- By induction on the derivation: each rule is one step of the walk. -/
theorem Leads.walk (leads : Leads root last links here parts goal) :
    root.walk last links here parts = .ok ⟨goal, root.at? goal⟩ := by
  induction leads with
  | @here links location found =>
    rw [Folder.walk, stepAlong]
    cases held : root.at? location with
    | none => exact absurd (kind?_eq_none.mpr held) found
    | some e => rfl
  | dot opened next ih =>
    obtain ⟨f, held⟩ := at?_of_kind?_folder opened
    rw [Folder.walk] at ih ⊢
    rw [stepAlong, held]
    exact ih
  | up opened next ih =>
    obtain ⟨f, held⟩ := at?_of_kind?_folder opened
    rw [Folder.walk] at ih ⊢
    rw [stepAlong, held]
    exact ih
  | into proper opened next ih =>
    obtain ⟨f, held⟩ := at?_of_kind?_folder (kind?_of_child opened)
    obtain ⟨inner, found⟩ := at?_of_kind?_folder opened
    rw [Folder.walk] at ih ⊢
    rw [stepAlong_cons held proper, found]
    exact ih
  | @stop links here name proper opened stops =>
    obtain ⟨f, held⟩ := at?_of_kind?_folder opened
    rw [Folder.walk, stepAlong_cons held proper]
    rcases found : root.at? (here ++ [name]) with _ | ⟨content, executable⟩ | target | inner
    · rfl
    · rfl
    · simp [stops.2 target (kind?_of_at? found)]
    · exact absurd (kind?_of_at? found) stops.1
  | @follow links here goal name target rest proper found further aimed next ih =>
    obtain ⟨f, held⟩ := at?_of_kind?_folder (kind?_of_child found)
    rw [Folder.walk, stepAlong_cons held proper, at?_of_kind?_link found]
    have goesOn : (rest.isEmpty && !last) = false := by
      rcases further with more | more <;> simp [more]
    simpa [goesOn, aimed] using ih

/-- Walks and derivations are the same. -/
theorem walk_eq_ok_iff {e : Option Entry} :
    root.walk last links here parts = .ok ⟨goal, e⟩ ↔
      Leads root last links here parts goal ∧ e = root.at? goal := by
  refine ⟨leads_of_walk, ?_⟩
  rintro ⟨leads, rfl⟩
  exact leads.walk

/-- The walk is a function. -/
theorem Leads.unique {goal' : Location} (one : Leads root last links here parts goal)
    (two : Leads root last links here parts goal') : goal = goal' :=
  (Place.mk.inj (Except.ok.inj (one.walk.symm.trans two.walk))).1

/-! ## Walks in larger trees -/

/-- Everything that stands in the first tree stands in the second, and is of the same kind. -/
def Grows (root other : Folder) : Prop :=
  ∀ location kind, root.kind? location = some kind → other.kind? location = some kind

/-- Nothing is new. -/
theorem Grows.refl (root : Folder) : Grows root root := fun _ _ held => held

/-- What stands in the first stands in the second, and so in the third. -/
theorem Grows.trans {middle : Folder} (first : Grows root middle) (second : Grows middle other) :
    Grows root other :=
  fun location kind held => second location kind (first location kind held)

/-- A larger tree leads to the same location, unless a link was put at its end. -/
theorem Leads.of_grows (leads : Leads root last links here parts goal) (grows : Grows root other)
    (open' : root.kind? goal = none → ∀ target, other.kind? goal = some (.link target) →
      last = false) :
    Leads other last links here parts goal := by
  induction leads with
  | @here links location found =>
    obtain ⟨kind, held⟩ := Option.ne_none_iff_exists'.mp found
    exact .here (by simp [grows _ _ held])
  | dot opened next ih => exact .dot (grows _ _ opened) (ih open')
  | up opened next ih => exact .up (grows _ _ opened) (ih open')
  | into proper opened next ih => exact .into proper (grows _ _ opened) (ih open')
  | @stop links here name proper opened stops =>
    by_cases entered : other.kind? (here ++ [name]) = some .folder
    · exact .into proper entered (.here (by simp [entered]))
    · refine .stop proper (grows _ _ opened) ⟨entered, fun target found => ?_⟩
      cases held : root.kind? (here ++ [name]) with
      | none => exact open' held target found
      | some kind =>
        have same : kind = .link target := by simpa [grows _ _ held] using found
        exact stops.2 target (same ▸ held)
  | follow proper found further aimed next ih =>
    exact .follow proper (grows _ _ found) further aimed (ih open')

/-- A walk that arrives at something arrives there in every larger tree. -/
theorem Leads.of_grows_held (leads : Leads root last links here parts goal)
    (grows : Grows root other) (held : root.kind? goal ≠ none) :
    Leads other last links here parts goal :=
  leads.of_grows grows fun missing => absurd missing held

/-! ## One component more or less -/

/-- A walk goes on from a folder to one of its entries. -/
theorem Leads.child (leads : Leads root true links here parts goal)
    (opened : root.kind? goal = some .folder) (proper : IsProperName name)
    (ends : ∀ target, root.kind? (goal ++ [name]) = some (.link target) → last = false) :
    Leads root last links here (parts ++ [name]) (goal ++ [name]) := by
  induction leads with
  | @here links location found =>
    by_cases entered : root.kind? (location ++ [name]) = some .folder
    · exact .into proper entered (.here (by simp [entered]))
    · exact .stop proper opened ⟨entered, ends⟩
  | dot above next ih => exact .dot above (ih opened ends)
  | up above next ih => exact .up above (ih opened ends)
  | into properName above next ih => exact .into properName above (ih opened ends)
  | stop properName above stops => exact absurd opened stops.1
  | follow properName found further aimed next ih =>
    refine .follow properName found (.inl (by simp)) aimed ?_
    simpa using ih opened ends

/-- A walk goes along the first components to a folder, and from there along the others. -/
theorem Leads.split (leads : Leads root last links here (parts ++ rest) goal)
    (more : rest ≠ []) :
    ∃ links' middle, Leads root true links here parts middle ∧
      root.kind? middle = some .folder ∧ Leads root last links' middle rest goal := by
  generalize whole : parts ++ rest = all at leads
  induction leads generalizing parts with
  | here found => exact absurd (List.append_eq_nil_iff.mp whole).2 more
  | @dot links here goal others opened next ih =>
    cases parts with
    | nil =>
      obtain rfl : rest = "." :: others := whole
      exact ⟨links + 1, here, .here (by simp [opened]), opened, .dot opened next⟩
    | cons first inner =>
      obtain ⟨rfl, rfl⟩ := List.cons.inj whole
      obtain ⟨links', middle, before, folder, after⟩ := ih rfl
      exact ⟨links', middle, .dot opened before, folder, after⟩
  | @up links here goal others opened next ih =>
    cases parts with
    | nil =>
      obtain rfl : rest = ".." :: others := whole
      exact ⟨links + 1, here, .here (by simp [opened]), opened, .up opened next⟩
    | cons first inner =>
      obtain ⟨rfl, rfl⟩ := List.cons.inj whole
      obtain ⟨links', middle, before, folder, after⟩ := ih rfl
      exact ⟨links', middle, .up opened before, folder, after⟩
  | @into links here goal name others proper opened next ih =>
    cases parts with
    | nil =>
      obtain rfl : rest = name :: others := whole
      have above : root.kind? here = some .folder := kind?_of_child opened
      exact ⟨links + 1, here, .here (by simp [above]), above, .into proper opened next⟩
    | cons first inner =>
      obtain ⟨rfl, rfl⟩ := List.cons.inj whole
      obtain ⟨links', middle, before, folder, after⟩ := ih rfl
      exact ⟨links', middle, .into proper opened before, folder, after⟩
  | @stop links here name proper opened stops =>
    cases parts with
    | nil =>
      obtain rfl : rest = [name] := whole
      exact ⟨links + 1, here, .here (by simp [opened]), opened, .stop proper opened stops⟩
    | cons first inner =>
      obtain ⟨-, none⟩ := List.cons.inj whole
      exact absurd (List.append_eq_nil_iff.mp none).2 more
  | @follow links here goal name target others proper found further aimed next ih =>
    cases parts with
    | nil =>
      obtain rfl : rest = name :: others := whole
      have above : root.kind? here = some .folder := kind?_of_child found
      exact ⟨links + 1, here, .here (by simp [above]), above,
        .follow proper found further aimed next⟩
    | cons first inner =>
      obtain ⟨rfl, rfl⟩ := List.cons.inj whole
      obtain ⟨links', middle, before, folder, after⟩ := ih (List.append_assoc _ _ _)
      exact ⟨links', middle, .follow proper found (.inr rfl) aimed before, folder, after⟩

/-- A walk that ends at an entry of some name came through the folder that holds it. -/
theorem Leads.parent (leads : Leads root false links here (parts ++ [name]) goal)
    (notDot : name ≠ ".") (notUp : name ≠ "..") :
    ∃ above, goal = above ++ [name] ∧ root.kind? above = some .folder ∧ IsProperName name ∧
      Leads root true links here parts above := by
  obtain ⟨links', above, before, folder, after⟩ := leads.split (List.cons_ne_nil name [])
  refine ⟨above, ?_⟩
  cases after with
  | dot => exact absurd rfl notDot
  | up => exact absurd rfl notUp
  | into proper opened next =>
    cases next
    exact ⟨rfl, folder, proper, before⟩
  | stop proper opened stops => exact ⟨rfl, folder, proper, before⟩
  | follow proper found further => simp at further

/-! ## Links at the end -/

/-- A name that leads to something leads there without the link at its end being followed, or ends
in that link. -/
theorem Leads.unfollowed (leads : Leads root true links here parts goal)
    (held : root.kind? goal ≠ none) :
    ∃ goal', Leads root false links here parts goal' ∧ root.kind? goal' ≠ none := by
  induction leads with
  | here found => exact ⟨_, .here found, found⟩
  | dot opened next ih =>
    obtain ⟨goal', leads, found⟩ := ih held
    exact ⟨goal', .dot opened leads, found⟩
  | up opened next ih =>
    obtain ⟨goal', leads, found⟩ := ih held
    exact ⟨goal', .up opened leads, found⟩
  | into proper opened next ih =>
    obtain ⟨goal', leads, found⟩ := ih held
    exact ⟨goal', .into proper opened leads, found⟩
  | stop proper opened stops => exact ⟨_, .stop proper opened ⟨stops.1, fun _ _ => rfl⟩, held⟩
  | @follow links here goal name target rest proper found further aimed next ih =>
    cases rest with
    | nil =>
      have above : root.kind? here = some .folder := kind?_of_child found
      exact ⟨_, .stop proper above ⟨by simp [found], fun _ _ => rfl⟩, by simp [found]⟩
    | cons first more =>
      obtain ⟨goal', leads, found'⟩ := ih held
      exact ⟨goal', .follow proper found (.inl (by simp)) aimed leads, found'⟩

/-- Where no link stands at the end, there is none to follow. -/
theorem Leads.followed (leads : Leads root false links here parts goal)
    (ends : ∀ target, root.kind? goal ≠ some (.link target)) :
    Leads root true links here parts goal := by
  induction leads with
  | here found => exact .here found
  | dot opened next ih => exact .dot opened (ih ends)
  | up opened next ih => exact .up opened (ih ends)
  | into proper opened next ih => exact .into proper opened (ih ends)
  | stop proper opened stops =>
    exact .stop proper opened ⟨stops.1, fun target found => absurd found (ends target)⟩
  | follow proper found further aimed next ih =>
    exact .follow proper found (.inr rfl) aimed (ih ends)

/-! ## Walks that fail -/

/-- A walk fails because nothing is there, or because a name is too long. -/
theorem walk_error {e : SystemError} (refused : root.walk last links here parts = .error e) :
    Files.meansAbsent e = true ∨ e = .nameTooLong := by
  induction links generalizing here parts with
  | zero =>
    cases refused
    exact .inl rfl
  | succ links follows =>
    rw [walk] at refused
    induction parts generalizing here with
    | nil =>
      rw [stepAlong] at refused
      split at refused <;> cases refused
      exact .inl rfl
    | cons name rest ih =>
      rw [stepAlong] at refused
      repeat' split at refused
      all_goals first
        | exact ih refused
        | exact follows refused
        | cases refused <;> first | exact .inl rfl | exact .inr rfl

end Folder

/-! ## Path names -/

namespace Files

variable {files changed : Files} {last : Bool} {path : PathName} {goal : Location}

/-- Where the walk along a path name starts. -/
def start (files : Files) (path : PathName) : Location :=
  if path.isAbsolute then [] else files.current

/-- A path name leads to a location. Its entry may be missing. -/
structure Leads (files : Files) (last : Bool) (path : PathName) (goal : Location) : Prop where
  short : path.isLong = false
  walks : files.root.Leads last 41 (files.start path) path.parts goal

/-- A name that is too long leads nowhere, and for all others it is the walk that decides. -/
theorem place_eq_ok_iff {e : Option Entry} :
    files.place last path = .ok ⟨goal, e⟩ ↔ files.Leads last path goal ∧ e = files.root.at? goal := by
  rw [place]
  by_cases long : path.isLong
  · simp only [long, if_true, reduceCtorEq, false_iff]
    exact fun found => absurd found.1.short (by simp [long])
  · have short : path.isLong = false := by simpa using long
    rw [if_neg long]
    refine Folder.walk_eq_ok_iff.trans ⟨fun found => ⟨⟨short, found.1⟩, found.2⟩, fun found => ?_⟩
    exact ⟨found.1.walks, found.2⟩

/-- The one direction of `place_eq_ok_iff`. -/
theorem Leads.place (leads : files.Leads last path goal) :
    files.place last path = .ok ⟨goal, files.root.at? goal⟩ :=
  place_eq_ok_iff.mpr ⟨leads, rfl⟩

/-- The other direction. -/
theorem leads_of_place {place : Place} (placed : files.place last path = .ok place) :
    files.Leads last path place.location ∧ place.entry = files.root.at? place.location :=
  place_eq_ok_iff.mp placed

/-- Both start at the same place. -/
theorem Leads.unique {goal' : Location} (one : files.Leads last path goal)
    (two : files.Leads last path goal') : goal = goal' := one.walks.unique two.walks

/-- Each rule goes through entries that are still there, up to the last one. -/
theorem Leads.of_grows_held (leads : files.Leads last path goal)
    (grows : files.root.Grows changed.root) (current : changed.current = files.current)
    (held : files.root.kind? goal ≠ none) : changed.Leads last path goal := by
  refine ⟨leads.short, ?_⟩
  rw [start, current]
  exact leads.walks.of_grows_held grows held

/-- The question for an entry is refused only when a name is too long. -/
theorem check_error {p : Entry → Bool} {e : SystemError} (refused : files.check p path = .error e) :
    e = .nameTooLong := by
  have unfound (missing : files.lookUp path = .error e) :
      meansAbsent e = true ∨ e = .nameTooLong := by
    rw [lookUp, place] at missing
    split at missing
    · cases missing
      exact .inr rfl
    · rcases walked : files.root.walk true 41 (if path.isAbsolute then [] else files.current)
        path.parts with failure | place <;> rw [walked] at missing
      · cases missing
        exact Folder.walk_error walked
      · simp only [bind, Except.bind] at missing
        split at missing <;> cases missing
        exact .inl rfl
  rw [check] at refused
  split at refused
  · cases refused
  · next failure missing =>
    split at refused
    · cases refused
    · next present =>
      cases refused
      exact (unfound missing).resolve_left present

end Files

end BuildBench
