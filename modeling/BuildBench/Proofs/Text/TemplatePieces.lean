import Mathlib.Data.List.Infix
import BuildBench.Proofs.History.Actions
import BuildBench.Text.Template

/-!
# Templates piece by piece

A template is read as pieces: characters that stand for themselves, doubled braces that stand for
one, and replacement fields. `Reads` has one rule for each. A template can be expanded exactly if it
can be read and each of its fields has a text, and then it becomes the texts of its pieces: how fields
are numbered makes no difference, because nothing is given by position.

The text of a field may occur in a template without being one: its braces may be doubled.
-/

namespace BuildBench.Text

/-! ## Occurrences -/

/-- Characters occur in others where these can be cut around them. -/
theorem occursIn_iff {part cs : List Char} : occursIn part cs = true ↔ part <:+: cs := by
  induction cs with
  | nil => simp [occursIn]
  | cons c rest ih => simp [occursIn, ih, List.infix_cons_iff]

namespace Template

variable {cs rest more layout : List Char} {f : Field} {n n' : Numbering}

/-! ## Reading -/

/-- A part of a template. -/
inductive Piece where
  | literal (c : Char)
  | field (f : Field)

/-- The characters of a template are read as pieces. -/
inductive Reads : List Char → List Piece → Prop
  | nil : Reads [] []
  | plain {c : Char} {cs : List Char} {ps : List Piece} (notOpen : c ≠ openBrace)
    (notClose : c ≠ closeBrace) (rest : Reads cs ps) : Reads (c :: cs) (.literal c :: ps)
  | doubled {c : Char} {cs : List Char} {ps : List Piece} (brace : c = openBrace ∨ c = closeBrace)
    (rest : Reads cs ps) : Reads (c :: c :: cs) (.literal c :: ps)
  | field {c : Char} {cs more : List Char} {f : Field} {ps : List Piece} (single : c ≠ openBrace)
    (read : readField (c :: cs) = .ok (f, more)) (rest : Reads more ps) :
    Reads (openBrace :: c :: cs) (.field f :: ps)

section Inversion

variable {c d : Char} {ps : List Piece}

/-- Only the rule for plain characters applies. -/
theorem reads_plain_iff (notOpen : c ≠ openBrace) (notClose : c ≠ closeBrace) :
    Reads (c :: rest) ps ↔ ∃ qs, ps = .literal c :: qs ∧ Reads rest qs := by
  constructor
  · intro read
    cases read with
    | plain _ _ read => exact ⟨_, rfl, read⟩
    | doubled brace => exact (brace.elim notOpen notClose).elim
    | field => exact absurd rfl notOpen
  · rintro ⟨qs, rfl, read⟩
    exact .plain notOpen notClose read

/-- Only the rule for doubled braces applies. -/
theorem reads_doubled_iff (brace : c = openBrace ∨ c = closeBrace) :
    Reads (c :: c :: rest) ps ↔ ∃ qs, ps = .literal c :: qs ∧ Reads rest qs := by
  constructor
  · intro read
    cases read with
    | plain notOpen notClose => exact (brace.elim notOpen notClose).elim
    | doubled _ read => exact ⟨_, rfl, read⟩
    | field single => exact absurd rfl single
  · rintro ⟨qs, rfl, read⟩
    exact .doubled brace read

/-- Only the rule for fields applies. -/
theorem reads_field_iff (single : d ≠ openBrace) : Reads (openBrace :: d :: rest) ps ↔
    ∃ f last qs, readField (d :: rest) = .ok (f, last) ∧ ps = .field f :: qs ∧ Reads last qs := by
  constructor
  · intro read
    cases read with
    | plain notOpen => exact absurd rfl notOpen
    | doubled => exact absurd rfl single
    | field _ read rest => exact ⟨_, _, _, read, rfl, rest⟩
  · rintro ⟨f, last, qs, read, rfl, rest⟩
    exact .field single read rest

/-- A brace by itself cannot be read. -/
theorem not_reads_brace (brace : c = openBrace ∨ c = closeBrace) : ¬ Reads [c] ps := by
  intro read
  cases read with
  | plain notOpen notClose => exact brace.elim notOpen notClose

/-- No rule applies. -/
theorem not_reads_close (single : d ≠ closeBrace) : ¬ Reads (closeBrace :: d :: rest) ps := by
  intro read
  cases read with
  | plain _ notClose => exact notClose rfl
  | doubled => exact single rfl

end Inversion

/-- A name is read up to the character that ends it. -/
theorem fieldName_ok {acc name : List Char} {bracketed : Bool} {stop : Option Char}
    (read : fieldName acc bracketed cs = .ok (name, stop, rest)) :
    ∃ body, name = acc.reverse ++ body ∧ cs = body ++ stop.toList ++ rest := by
  induction cs generalizing acc bracketed with
  | nil =>
    cases read
    exact ⟨[], by simp, rfl⟩
  | cons c cs ih =>
    have further : ∀ bracketed, fieldName (c :: acc) bracketed cs = .ok (name, stop, rest) →
        ∃ body, name = acc.reverse ++ body ∧ c :: cs = body ++ stop.toList ++ rest := by
      intro bracketed read
      obtain ⟨body, rfl, rfl⟩ := ih read
      exact ⟨c :: body, by simp, by simp⟩
    rw [fieldName] at read
    split at read
    · exact further _ read
    · split at read
      · cases read
      · split at read
        · cases read
          exact ⟨[], by simp, rfl⟩
        · exact further _ read

/-- A layout is read up to the brace that closes the field. -/
theorem fieldLayout_ok {acc : List Char} {depth : Nat}
    (read : fieldLayout acc depth cs = .ok (layout, rest)) :
    ∃ body, layout = acc.reverse ++ body ∧ cs = body ++ closeBrace :: rest := by
  induction cs generalizing acc depth with
  | nil => cases read
  | cons c cs ih =>
    have further : ∀ depth, fieldLayout (c :: acc) depth cs = .ok (layout, rest) →
        ∃ body, layout = acc.reverse ++ body ∧ c :: cs = body ++ closeBrace :: rest := by
      intro depth read
      obtain ⟨body, rfl, rfl⟩ := ih read
      exact ⟨c :: body, by simp, by simp⟩
    rw [fieldLayout] at read
    split at read
    · exact further _ read
    · split at read
      · next close =>
        split at read
        · cases read
          exact ⟨[], by simp, by simp [beq_iff_eq.mp close]⟩
        · exact further _ read
      · exact further _ read

/-- A field is read from the front: its name, and whatever else belongs to it. -/
theorem readField_ok (read : readField cs = .ok (f, rest)) :
    ∃ used, cs = f.name ++ used ++ rest ∧ used ≠ [] ∧
      (f.conversion = none → f.layout = [] → openBrace ∉ used) := by
  unfold readField at read
  rcases named : fieldName [] false cs with e | ⟨name, stop, after⟩ <;> rw [named] at read
  · cases read
  obtain ⟨body, rfl, rfl⟩ := fieldName_ok named
  change (if stop == some closeBrace then _ else _) = _ at read
  split at read
  · next close =>
    obtain rfl := beq_iff_eq.mp close
    cases read
    exact ⟨[closeBrace], by simp, by simp, fun _ _ => by decide⟩
  split at read
  · next colon =>
    obtain rfl := beq_iff_eq.mp colon
    rcases laid : fieldLayout [] 0 after with e | ⟨layout, last⟩ <;> rw [laid] at read <;> cases read
    obtain ⟨body', same, rfl⟩ := fieldLayout_ok laid
    refine ⟨':' :: body' ++ [closeBrace], by simp, by simp, fun _ empty => ?_⟩
    obtain rfl : body' = [] := by simpa [same] using empty
    decide
  split at read
  · next mark =>
    obtain rfl := beq_iff_eq.mp mark
    rcases after with _ | ⟨conversion, _ | ⟨c, after⟩⟩
    · cases read
    · cases read
    dsimp only at read
    split at read
    · next close =>
      obtain rfl := beq_iff_eq.mp close
      cases read
      exact ⟨['!', conversion, closeBrace], by simp, by simp, fun none => nomatch none⟩
    split at read
    · next colon =>
      obtain rfl := beq_iff_eq.mp colon
      rcases laid : fieldLayout [] 0 after with e | ⟨layout, last⟩ <;> rw [laid] at read <;>
        cases read
      obtain ⟨body', -, rfl⟩ := fieldLayout_ok laid
      exact ⟨'!' :: conversion :: ':' :: body' ++ [closeBrace], by simp, by simp,
        fun none => nomatch none⟩
    · cases read
  · cases read

/-- The field used up one character at least. -/
theorem length_of_readField (read : readField cs = .ok (f, rest)) : rest.length < cs.length := by
  obtain ⟨used, rfl, given, -⟩ := readField_ok read
  have filled := List.length_pos_iff.mpr given
  simp only [List.length_append]
  omega

/-! ## Texts of pieces -/

/-- An expansion that may be asked to expand the layout of a field. -/
abbrev Expansion := Numbering → List Char → Except Fault (String × Numbering)

/-- An expansion that leaves the numbering of fields as it is, and does not depend on it. -/
def Steady (expansion : Expansion) : Prop :=
  ∀ n n' cs s, expansion n cs = .ok (s, n') → n' = n ∧ ∀ m, expansion m cs = .ok (s, m)

/-- A name that stands for something is no position. -/
theorem lookUp_ok {fields : Fields} {name : List Char} {x : Inspection.Subject}
    (found : lookUp fields n name = .ok (x, n')) :
    n' = n ∧ ∀ m, lookUp fields m name = .ok (x, m) := by
  unfold lookUp at found ⊢
  dsimp only at found ⊢
  generalize name.takeWhile (fun c => c != '.' && c != '[') = first at found ⊢
  rcases position : position? first with e | index <;> rw [position] at found
  · cases found
  dsimp only [bind, Except.bind] at found ⊢
  by_cases positional : (first.isEmpty || index.isSome) = true
  · rw [if_pos positional] at found
    rcases numbered : n.next first.isEmpty with e | m <;> rw [numbered] at found <;> cases found
  · rw [if_neg positional] at found
    rcases named : fields.find? (·.1 == String.ofList first) with _ | ⟨key, v⟩ <;>
      rw [named] at found
    · cases found
    dsimp only at found
    rcases followed : follow name.length (name.drop first.length) (.value v) with e | y <;>
      rw [followed] at found <;> cases found
    refine ⟨rfl, fun m => ?_⟩
    rw [if_neg positional, named]
    dsimp only
    rw [followed]
    rfl

/-- The layout of a field with its own fields filled in. -/
def Field.filledLayout (expansion : Expansion) (f : Field) : Except Fault String :=
  if f.layout.contains openBrace then (expansion .undecided f.layout).map (·.1)
  else .ok (String.ofList f.layout)

/-- The text of a field. -/
def Field.text (fields : Fields) (expansion : Expansion) (f : Field) : Except Fault String := do
  let (s, _) ← lookUp fields .undecided f.name
  let s ← convert f.conversion s
  let spec ← f.filledLayout expansion
  layOutSubject spec.toList s

/-- The text of a piece. -/
def Piece.text (fields : Fields) (expansion : Expansion) : Piece → Except Fault String
  | .literal c => .ok (String.singleton c)
  | .field f => f.text fields expansion

/-- The texts of some pieces, one after the other. -/
def fill (fields : Fields) (expansion : Expansion) : List Piece → Except Fault String
  | [] => .ok ""
  | p :: rest => do return (← p.text fields expansion) ++ (← fill fields expansion rest)

/-- The first piece has a text, and so have the others. -/
theorem fill_cons_ok {fields : Fields} {expansion : Expansion} {p : Piece} {ps : List Piece}
    {s : String} : fill fields expansion (p :: ps) = .ok s ↔
      ∃ t u, p.text fields expansion = .ok t ∧ fill fields expansion ps = .ok u ∧ s = t ++ u := by
  rw [fill]
  rcases p.text fields expansion with e | t
  · simp [bind, Except.bind]
  · rcases fill fields expansion ps with e | u <;>
      simp [bind, Except.bind, pure, Except.pure, eq_comm]

/-! ## Expanding -/

section Expanding

variable {fields : Fields} {expansion : Expansion} {s : String}

/-- What comes after a text is expanded on its own. -/
theorem prepend_ok_iff {t : String} {tail : Except Fault (String × Numbering)} :
    (do let (u, m) ← tail; return (t ++ u, m)) = .ok (s, n') ↔
      ∃ u, tail = .ok (u, n') ∧ s = t ++ u := by
  rcases tail with e | ⟨u, m⟩
  · simp [bind, Except.bind]
  · simp only [bind, Except.bind, pure, Except.pure, Except.ok.injEq, Prod.mk.injEq]
    constructor
    · rintro ⟨rfl, rfl⟩
      exact ⟨u, ⟨rfl, rfl⟩, rfl⟩
    · rintro ⟨u, ⟨rfl, rfl⟩, rfl⟩
      exact ⟨rfl, rfl⟩

/-- Step by step: the value is looked up, converted, and laid out by the layout that was filled in.
-/
theorem Field.text_ok_iff {t : String} : f.text fields expansion = .ok t ↔
    ∃ x m y spec, lookUp fields .undecided f.name = .ok (x, m) ∧ convert f.conversion x = .ok y ∧
      f.filledLayout expansion = .ok spec ∧ layOutSubject spec.toList y = .ok t := by
  unfold Field.text
  rcases lookUp fields .undecided f.name with e | ⟨x, m⟩
  · simp [bind, Except.bind]
  rcases converted : convert f.conversion x with e | y
  · simp [bind, Except.bind, converted]
  rcases f.filledLayout expansion with e | spec
  · simp [bind, Except.bind, converted]
  · simp only [bind, Except.bind, converted, Except.ok.injEq, Prod.mk.injEq]
    constructor
    · exact fun laid => ⟨x, m, y, spec, ⟨rfl, rfl⟩, converted, rfl, laid⟩
    · rintro ⟨_, _, _, _, ⟨rfl, rfl⟩, other, rfl, laid⟩
      cases converted.symm.trans other
      exact laid

/-- A field in the middle of a template has the text that it has by itself. -/
theorem expandField_ok_iff (steady : Steady expansion) (f : Field)
    (tail : Numbering → Except Fault (String × Numbering)) :
    (do
      let (x, n) ← lookUp fields n f.name
      let x ← convert f.conversion x
      let (spec, n) ←
        if f.layout.contains openBrace then expansion n f.layout
        else pure (String.ofList f.layout, n)
      let t ← layOutSubject spec.toList x
      let (u, n) ← tail n
      return (t ++ u, n)) = .ok (s, n') ↔
    ∃ t u, f.text fields expansion = .ok t ∧ tail n = .ok (u, n') ∧ s = t ++ u := by
  constructor
  · intro expanded
    rcases found : lookUp fields n f.name with e | ⟨x, m⟩ <;> rw [found] at expanded
    · cases expanded
    obtain ⟨rfl, anyway⟩ := lookUp_ok found
    dsimp only [bind, Except.bind] at expanded
    rcases converted : convert f.conversion x with e | y <;> rw [converted] at expanded
    · cases expanded
    obtain ⟨spec, filled, expanded⟩ : ∃ spec, f.filledLayout expansion = .ok spec ∧
        (layOutSubject spec.toList y >>= fun t =>
          (do let (u, m) ← tail m; return (t ++ u, m))) = .ok (s, n') := by
      unfold Field.filledLayout
      dsimp only at expanded
      by_cases nested : f.layout.contains openBrace = true
      · rw [if_pos nested] at expanded ⊢
        rcases inner : expansion m f.layout with e | ⟨spec, k⟩ <;> rw [inner] at expanded
        · cases expanded
        · obtain ⟨rfl, anyway⟩ := steady _ _ _ _ inner
          exact ⟨spec, by rw [anyway]; rfl, expanded⟩
      · rw [if_neg nested] at expanded ⊢
        exact ⟨_, rfl, expanded⟩
    rcases laid : layOutSubject spec.toList y with e | t <;> rw [laid] at expanded
    · cases expanded
    obtain ⟨u, told, rfl⟩ := prepend_ok_iff.mp expanded
    exact ⟨t, u, Field.text_ok_iff.mpr ⟨x, _, y, spec, anyway _, converted, filled, laid⟩, told, rfl⟩
  · rintro ⟨t, u, text, told, rfl⟩
    obtain ⟨x, m, y, spec, found, converted, filled, laid⟩ := Field.text_ok_iff.mp text
    have found := (lookUp_ok found).2 n
    simp only [found, converted, bind, Except.bind]
    unfold Field.filledLayout at filled
    by_cases nested : f.layout.contains openBrace = true
    · rw [if_pos nested] at filled ⊢
      rcases inner : expansion .undecided f.layout with e | ⟨spec', k⟩ <;> rw [inner] at filled <;>
        cases filled
      simp only [(steady _ _ _ _ inner).2 n, laid, told]
      rfl
    · rw [if_neg nested] at filled ⊢
      cases filled
      simp only [pure, Except.pure, laid, told]

/-- A character in front of characters that are read by themselves. -/
theorem literal_ok_iff {c : Char} {tail : Except Fault (String × Numbering)}
    (expands : ∀ s n', tail = .ok (s, n') ↔
      n' = n ∧ ∃ ps, Reads more ps ∧ fill fields expansion ps = .ok s)
    (reads : ∀ ps, Reads cs ps ↔ ∃ qs, ps = .literal c :: qs ∧ Reads more qs) :
    (do let (u, m) ← tail; return (String.singleton c ++ u, m)) = .ok (s, n') ↔
      n' = n ∧ ∃ ps, Reads cs ps ∧ fill fields expansion ps = .ok s := by
  rw [prepend_ok_iff]
  constructor
  · rintro ⟨u, told, rfl⟩
    obtain ⟨rfl, qs, read, filled⟩ := (expands _ _).mp told
    exact ⟨rfl, _, (reads _).mpr ⟨qs, rfl, read⟩, fill_cons_ok.mpr ⟨_, u, rfl, filled, rfl⟩⟩
  · rintro ⟨rfl, ps, whole, filled⟩
    obtain ⟨qs, rfl, read⟩ := (reads ps).mp whole
    obtain ⟨t, u, text, later, rfl⟩ := fill_cons_ok.mp filled
    cases text
    exact ⟨u, (expands _ _).mpr ⟨rfl, qs, read, later⟩, rfl⟩

/-- A field in front of characters that are read by themselves. -/
theorem field_ok_iff {d : Char} {last : List Char}
    {tail : Except Fault (String × Numbering)} (apart : d ≠ openBrace)
    (read : readField (d :: more) = .ok (f, last))
    (expands : ∀ s n', tail = .ok (s, n') ↔
      n' = n ∧ ∃ ps, Reads last ps ∧ fill fields expansion ps = .ok s) :
    (∃ t u, f.text fields expansion = .ok t ∧ tail = .ok (u, n') ∧ s = t ++ u) ↔
      n' = n ∧ ∃ ps, Reads (openBrace :: d :: more) ps ∧ fill fields expansion ps = .ok s := by
  constructor
  · rintro ⟨t, u, text, told, rfl⟩
    obtain ⟨rfl, qs, later, filled⟩ := (expands _ _).mp told
    exact ⟨rfl, _, .field apart read later, fill_cons_ok.mpr ⟨t, u, text, filled, rfl⟩⟩
  · rintro ⟨rfl, ps, whole, filled⟩
    obtain ⟨f', last', qs, other, rfl, later⟩ := (reads_field_iff apart).mp whole
    cases read.symm.trans other
    obtain ⟨t, u, text, rest, rfl⟩ := fill_cons_ok.mp filled
    exact ⟨t, u, text, (expands _ _).mpr ⟨rfl, qs, later, rest⟩, rfl⟩

/-- A template can be expanded exactly if it can be read as pieces that all have a text. -/
theorem expandWith_ok_iff (steady : Steady expansion) {fuel : Nat} (enough : cs.length ≤ fuel) :
    expandWith fields expansion fuel n cs = .ok (s, n') ↔
      n' = n ∧ ∃ ps, Reads cs ps ∧ fill fields expansion ps = .ok s := by
  induction fuel generalizing cs s n' with
  | zero =>
    obtain rfl := List.length_eq_zero_iff.mp (Nat.le_zero.mp enough)
    constructor
    · rintro ⟨⟩
      exact ⟨rfl, [], .nil, rfl⟩
    · rintro ⟨rfl, ps, ⟨⟩, ⟨⟩⟩
      rfl
  | succ fuel ih =>
    rcases cs with _ | ⟨c, rest⟩
    · constructor
      · rintro ⟨⟩
        exact ⟨rfl, [], .nil, rfl⟩
      · rintro ⟨rfl, ps, ⟨⟩, ⟨⟩⟩
        rfl
    have shorter : rest.length ≤ fuel := Nat.le_of_succ_le_succ enough
    have literal {more : List Char} (bound : more.length ≤ fuel) (reads : ∀ ps,
        Reads (c :: rest) ps ↔ ∃ qs, ps = .literal c :: qs ∧ Reads more qs) :
        (do
          let (u, m) ← expandWith fields expansion fuel n more
          return (String.singleton c ++ u, m)) = .ok (s, n') ↔
        n' = n ∧ ∃ ps, Reads (c :: rest) ps ∧ fill fields expansion ps = .ok s :=
      literal_ok_iff (fun _ _ => ih bound) reads
    unfold expandWith
    dsimp only
    by_cases brace : (c == openBrace || c == closeBrace) = true
    swap
    · have notBrace : c ≠ openBrace ∧ c ≠ closeBrace := by simpa using brace
      rw [if_neg brace]
      exact literal shorter fun ps => reads_plain_iff notBrace.1 notBrace.2
    have isBrace : c = openBrace ∨ c = closeBrace := by simpa using brace
    rw [if_pos brace]
    rcases rest with _ | ⟨d, more⟩
    · refine iff_of_false ?_ fun ⟨_, ps, read, _⟩ => not_reads_brace isBrace read
      dsimp only
      split <;> nofun
    dsimp only
    by_cases same : c = d
    · subst same
      rw [if_pos (beq_self_eq_true c)]
      exact literal (Nat.le_of_succ_le shorter) fun ps => reads_doubled_iff isBrace
    rw [if_neg (by simpa using same)]
    rcases isBrace with rfl | rfl
    · rw [if_neg (by decide)]
      rcases read : readField (d :: more) with e | ⟨f, last⟩
      · refine iff_of_false (nofun) fun ⟨_, ps, whole, _⟩ => ?_
        obtain ⟨f, last, qs, other, -⟩ := (reads_field_iff (Ne.symm same)).mp whole
        cases read.symm.trans other
      have bound : last.length ≤ fuel :=
        Nat.le_of_lt_succ (Nat.lt_of_lt_of_le (length_of_readField read) (Nat.le_succ_of_le shorter))
      exact (expandField_ok_iff steady f fun n => expandWith fields expansion fuel n last).trans
        (field_ok_iff (Ne.symm same) read fun _ _ => ih bound)
    · rw [if_pos (by decide)]
      exact iff_of_false (nofun) fun ⟨_, ps, read, _⟩ => not_reads_close (Ne.symm same) read

/-- The expansion of the layout of a field. -/
def expandLayout (fields : Fields) : Expansion := fun n cs =>
  expandWith fields tooDeep cs.length n cs

/-- The layout is expanded with fields that are named, and deeper fields are refused. -/
theorem expandLayout_steady (fields : Fields) : Steady (expandLayout fields) := by
  have deep : Steady tooDeep := fun _ _ _ _ => nofun
  intro n n' cs s expanded
  obtain ⟨same, ps, read, filled⟩ := (expandWith_ok_iff deep le_rfl).mp expanded
  exact ⟨same, fun m => (expandWith_ok_iff deep le_rfl).mpr ⟨rfl, ps, read, filled⟩⟩

/-- The expansion reads pieces as it goes and puts in the text of each. -/
theorem expand_ok_iff {template : String} : expand template fields = .ok s ↔
    ∃ ps, Reads template.toList ps ∧ fill fields (expandLayout fields) ps = .ok s := by
  have whole {n'} : expandWith fields (expandLayout fields) template.toList.length .undecided
      template.toList = .ok (s, n') ↔ n' = .undecided ∧
        ∃ ps, Reads template.toList ps ∧ fill fields (expandLayout fields) ps = .ok s :=
    expandWith_ok_iff (expandLayout_steady fields) le_rfl
  change ((expandWith fields (expandLayout fields) template.toList.length .undecided
    template.toList >>= fun (s, _) => pure s) = .ok s) ↔ _
  constructor
  · intro expanded
    rcases told : expandWith fields (expandLayout fields) template.toList.length .undecided
      template.toList with e | ⟨t, n⟩ <;> rw [told] at expanded <;> cases expanded
    exact (whole.mp told).2
  · intro readable
    rw [whole.mpr ⟨rfl, readable⟩]
    rfl

/-- Pieces can be filled in if their fields can, and each has its text in the whole. -/
theorem exists_fill {ps : List Piece}
    (given : ∀ f, .field f ∈ ps → ∃ t, f.text fields expansion = .ok t) :
    ∃ s, fill fields expansion ps = .ok s ∧
      ∀ p ∈ ps, ∀ t, p.text fields expansion = .ok t → holds t s = true := by
  induction ps with
  | nil => exact ⟨"", rfl, by simp⟩
  | cons p rest ih =>
    obtain ⟨u, filled, inside⟩ := ih fun f among => given f (List.mem_cons_of_mem _ among)
    obtain ⟨t, text⟩ : ∃ t, p.text fields expansion = .ok t := by
      cases p with
      | literal c => exact ⟨_, rfl⟩
      | field f => exact given f (List.mem_cons_self ..)
    refine ⟨t ++ u, fill_cons_ok.mpr ⟨t, u, text, filled, rfl⟩,
      List.forall_mem_cons.mpr ⟨fun t' same => ?_, fun p' among t' same => ?_⟩⟩
    · cases text.symm.trans same
      rw [holds, occursIn_iff, String.toList_append]
      exact (List.prefix_append _ _).isInfix
    · have later := inside p' among t' same
      rw [holds, occursIn_iff] at later ⊢
      rw [String.toList_append]
      exact later.trans (List.suffix_append _ _).isInfix

end Expanding

/-! ## Fields that are only names -/

/-- A field that is only a name. -/
def Piece.named (name : String) : Piece := .field ⟨name.toList, none, []⟩

/-- The pieces that a name between doubled braces is read as. -/
def spelledOut (name : String) : List Piece :=
  (openBrace :: (name.toList ++ [closeBrace])).map .literal

/-- Every field is one of these names and nothing else. -/
def OnlyNames (names : List String) (ps : List Piece) : Prop :=
  ∀ f, .field f ∈ ps → ∃ name ∈ names, Piece.field f = .named name

/-- A name that consists of letters. -/
structure IsWord (name : String) : Prop where
  given : name ≠ ""
  letters : ∀ c ∈ name.toList, c.isAlpha = true

instance (name : String) : Decidable (IsWord name) :=
  decidable_of_iff (name ≠ "" ∧ name.toList.all Char.isAlpha = true)
    ⟨fun both => ⟨both.1, List.all_eq_true.mp both.2⟩,
      fun word => ⟨word.given, List.all_eq_true.mpr word.letters⟩⟩

section Words

variable {name : List Char} (letters : ∀ c ∈ name, c.isAlpha = true)

include letters

/-- A brace is no letter. -/
theorem openBrace_not_mem : openBrace ∉ name := fun among =>
  absurd (letters _ among) (by decide)

/-- The name goes on to the brace, since no letter ends it. -/
theorem readField_letters : readField (name ++ closeBrace :: rest) = .ok (⟨name, none, []⟩, rest) := by
  have named : ∀ acc, fieldName acc false (name ++ closeBrace :: rest) =
      .ok (acc.reverse ++ name, some closeBrace, rest) := by
    induction name with
    | nil => intro acc; simp [fieldName, openBrace, closeBrace]
    | cons c cs ih =>
      intro acc
      have letter := letters c (List.mem_cons_self ..)
      have apart : ∀ d : Char, d.isAlpha = false → ¬ (c == d) = true := by
        intro d other same
        rw [beq_iff_eq.mp same, other] at letter
        cases letter
      rw [List.cons_append, fieldName, if_neg (by decide), if_neg (apart _ (by decide)),
        if_neg (by simpa using ⟨⟨by simpa using apart closeBrace (by decide),
          by simpa using apart ':' (by decide)⟩, by simpa using apart '!' (by decide)⟩),
        eq_false_of_ne_true (apart '[' (by decide)),
        ih (fun d among => letters d (List.mem_cons_of_mem _ among))]
      simp
  rw [readField, named]
  rfl

/-- Letters up to a brace are read one by one, and so is the brace. -/
theorem spelled_of_reads {ps : List Piece} (read : Reads (name ++ closeBrace :: rest) ps) :
    (name ++ [closeBrace]).map .literal <+: ps := by
  induction name generalizing ps with
  | nil =>
    cases read with
    | plain _ notClose => exact absurd rfl notClose
    | doubled _ read => exact List.prefix_append _ _
  | cons c cs ih =>
    have letter := letters c (List.mem_cons_self ..)
    have notOpen : c ≠ openBrace := by rintro rfl; exact absurd letter (by decide)
    have notClose : c ≠ closeBrace := by rintro rfl; exact absurd letter (by decide)
    obtain ⟨qs, rfl, later⟩ := (reads_plain_iff notOpen notClose).mp read
    exact List.cons_prefix_cons.mpr
      ⟨rfl, ih (fun d among => letters d (List.mem_cons_of_mem _ among)) later⟩

end Words

/-- What begins with a character occurs only from an occurrence of this character on. -/
theorem infix_of_not_mem {c : Char} {part front : List Char} (absent : c ∉ front)
    (occurs : c :: part <:+: front ++ rest) : c :: part <:+: rest := by
  induction front with
  | nil => exact occurs
  | cons d front ih =>
    simp only [List.mem_cons, not_or] at absent
    rcases List.infix_cons_iff.mp occurs with here | later
    · exact absurd (List.cons_prefix_cons.mp here).1 absent.1
    · exact ih absent.2 later

/-- A name between braces that occurs in a template is a field of it, or its braces are doubled. -/
theorem named_or_spelled {name : String} {ps : List Piece} (word : IsWord name)
    (read : Reads cs ps) (plain : ∀ f, .field f ∈ ps →
      f.conversion = none ∧ f.layout = [] ∧ openBrace ∉ f.name)
    (occurs : openBrace :: (name.toList ++ [closeBrace]) <:+: cs) :
    .named name ∈ ps ∨ spelledOut name <:+: ps := by
  induction read with
  | nil => exact absurd (List.eq_nil_of_infix_nil occurs) (by simp)
  | @plain c cs ps notOpen notClose read ih =>
    have plain := fun f among => plain f (List.mem_cons_of_mem _ among)
    rcases List.infix_cons_iff.mp occurs with here | later
    · exact absurd (List.cons_prefix_cons.mp here).1.symm notOpen
    · exact (ih plain later).imp (List.mem_cons_of_mem _) (List.infix_cons ·)
  | @doubled c cs ps brace read ih =>
    have plain := fun f among => plain f (List.mem_cons_of_mem _ among)
    rcases List.infix_cons_iff.mp occurs with here | later
    · -- A letter follows the brace of a name, not another brace.
      obtain ⟨first, others⟩ := List.cons_prefix_cons.mp here
      obtain ⟨d, more, same⟩ := List.exists_cons_of_ne_nil
        (by simpa using word.given : name.toList ≠ [])
      rw [same] at others
      have letter := word.letters d (by simp [same])
      rw [(List.cons_prefix_cons.mp others).1, ← first] at letter
      exact absurd letter (by decide)
    rcases List.infix_cons_iff.mp later with here | later
    · obtain ⟨first, tail, whole⟩ := List.cons_prefix_cons.mp here
      subst first
      have read : Reads (name.toList ++ closeBrace :: tail) ps := by
        rwa [← whole, List.append_assoc] at read
      exact .inr (List.cons_prefix_cons.mpr ⟨rfl, spelled_of_reads word.letters read⟩).isInfix
    · exact (ih plain later).imp (List.mem_cons_of_mem _) (List.infix_cons ·)
  | @field c cs more f ps single readF read ih =>
    obtain ⟨⟨unconverted, unlaid, nameless⟩, plain⟩ :=
      (⟨plain f (List.mem_cons_self ..), fun g among => plain g (List.mem_cons_of_mem _ among)⟩ :
        _ ∧ ∀ g, .field g ∈ ps → _)
    rcases List.infix_cons_iff.mp occurs with here | later
    · obtain ⟨-, tail, whole⟩ := List.cons_prefix_cons.mp here
      rw [← whole, List.append_assoc, List.singleton_append,
        readField_letters word.letters] at readF
      cases readF
      exact .inl (List.mem_cons_self ..)
    · obtain ⟨used, same, -, braceless⟩ := readField_ok readF
      rw [same] at later
      have absent : openBrace ∉ f.name ++ used := by
        simpa using ⟨nameless, braceless unconverted unlaid⟩
      exact (ih plain (infix_of_not_mem absent later)).imp (List.mem_cons_of_mem _)
        (List.infix_cons ·)

end Template

end BuildBench.Text
