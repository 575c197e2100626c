/-!
# Natural merge sort

Sorting by merging the runs that a list already has. Runs that are short are made longer by
insertion; a merge whose one side keeps winning looks for the end of its row in growing steps, and
how eagerly it does so depends on how that went before. Neighbouring runs are merged in an order
that keeps the work balanced.

For values that are all comparable any sorting gives the same result. The value that is no number is
not less than anything and nothing is less than it, so for samples that hold it the result is
whatever this sequence of comparisons makes of it; that is why the sequence is fixed here.
-/

namespace BuildBench.Statistics.NaturalMerge

variable (less : Float → Float → Bool)

/-! ## Looking for a place -/

/-- The first position between two that does not satisfy `before`, found by halving. -/
def bisect (before : Nat → Bool) : Nat → Nat → Nat → Nat
  | 0, low, _ => low
  | fuel + 1, low, high =>
    if low < high then
      let middle := low + (high - low) / 2
      if before middle then bisect before fuel (middle + 1) high
      else bisect before fuel low middle
    else low

/-- Grows a distance as long as `holds` is true of it, but not beyond `most`. The last distance for
which it was true, and the one where the search ended. -/
def grow (holds : Nat → Bool) (most : Nat) : Nat → Nat → Nat → Nat × Nat
  | 0, last, distance => (last, min distance most)
  | fuel + 1, last, distance =>
    if distance < most && holds distance then
      grow holds most fuel distance (2 * distance + 1)
    else (last, min distance most)

/-- Some consecutive values of a run. -/
structure Span where
  values : Array Float
  first : Nat
  size : Nat

def Span.get (s : Span) (i : Nat) : Float := s.values.getD (s.first + i) 0.0

/-- How many values of an ascending span are less than `x`, looked for from `hint` on. -/
def countLess (x : Float) (s : Span) (hint : Nat) : Nat :=
  let before (i : Nat) : Bool := less (s.get i) x
  let fuel := s.size + 1
  if before hint then
    let (last, distance) := grow (fun d => before (hint + d)) (s.size - hint) fuel 0 1
    bisect before fuel (hint + last + 1) (hint + distance)
  else
    let (last, distance) := grow (fun d => !before (hint - d)) (hint + 1) fuel 0 1
    bisect before fuel (hint + 1 - distance) (hint - last)

/-- How many values of an ascending span are not greater than `x`, looked for from `hint` on. -/
def countNotGreater (x : Float) (s : Span) (hint : Nat) : Nat :=
  let before (i : Nat) : Bool := !less x (s.get i)
  let fuel := s.size + 1
  if before hint then
    let (last, distance) := grow (fun d => before (hint + d)) (s.size - hint) fuel 0 1
    bisect before fuel (hint + last + 1) (hint + distance)
  else
    let (last, distance) := grow (fun d => !before (hint - d)) (hint + 1) fuel 0 1
    bisect before fuel (hint + 1 - distance) (hint - last)

/-! ## Merging two runs -/

/-- How long a row of wins has to be before its end is looked for in growing steps. -/
def leastRow : Nat := 7

/-- A merge in progress: what is left of both runs, what was merged so far, and how long a row of
wins has to be at present. -/
structure Merge where
  left : Span
  right : Span
  done : Array Float
  patience : Nat

def Span.drop (s : Span) (n : Nat) : Span := ⟨s.values, s.first + n, s.size - n⟩

def Span.dropLast (s : Span) (n : Nat) : Span := { s with size := s.size - n }

def Span.toArray (s : Span) : Array Float := s.values.extract s.first (s.first + s.size)

/-- The whole merged run when nothing is compared any more. -/
def Merge.result (m : Merge) : Array Float := m.done ++ m.left.toArray ++ m.right.toArray

/-- The whole merged run when the last value of the left run belongs at its end. -/
def Merge.resultLeftLast (m : Merge) : Array Float := m.done ++ m.right.toArray ++ m.left.toArray

def Merge.takeLeft (m : Merge) (n : Nat) : Merge :=
  { m with left := m.left.drop n, done := m.done ++ (m.left.dropLast (m.left.size - n)).toArray }

def Merge.takeRight (m : Merge) (n : Nat) : Merge :=
  { m with
    right := m.right.drop n, done := m.done ++ (m.right.dropLast (m.right.size - n)).toArray }

/-- Goes on with a merge from the beginning of both runs. `rows` are the lengths of the present rows
of wins, left and right, while values are compared one by one; without them the ends of rows are
looked for. -/
def mergeForward : Nat → Option (Nat × Nat) → Merge → Array Float × Nat
  | 0, _, m => (m.result, m.patience)
  | fuel + 1, some (leftRow, rightRow), m =>
    if less (m.right.get 0) (m.left.get 0) then
      let m := m.takeRight 1
      if m.right.size = 0 then (m.result, m.patience)
      else if m.patience ≤ rightRow + 1 then
        mergeForward fuel none { m with patience := m.patience + 1 }
      else mergeForward fuel (some (0, rightRow + 1)) m
    else
      let m := m.takeLeft 1
      if m.left.size = 1 then (m.resultLeftLast, m.patience)
      else if m.patience ≤ leftRow + 1 then
        mergeForward fuel none { m with patience := m.patience + 1 }
      else mergeForward fuel (some (leftRow + 1, 0)) m
  | fuel + 1, none, m =>
    let m := { m with patience := if 1 < m.patience then m.patience - 1 else m.patience }
    let leftRow := countNotGreater less (m.right.get 0) m.left 0
    let m := m.takeLeft leftRow
    if 0 < leftRow && m.left.size = 1 then (m.resultLeftLast, m.patience)
    else if 0 < leftRow && m.left.size = 0 then (m.result, m.patience)
    else
      let m := m.takeRight 1
      if m.right.size = 0 then (m.result, m.patience)
      else
        let rightRow := countLess less (m.left.get 0) m.right 0
        let m := m.takeRight rightRow
        if 0 < rightRow && m.right.size = 0 then (m.result, m.patience)
        else
          let m := m.takeLeft 1
          if m.left.size = 1 then (m.resultLeftLast, m.patience)
          else if leastRow ≤ leftRow || leastRow ≤ rightRow then mergeForward fuel none m
          else mergeForward fuel (some (0, 0)) { m with patience := m.patience + 1 }

/-- The whole merged run when a merge from the end stops: what was merged stands at its end. -/
def Merge.resultBackward (m : Merge) : Array Float := m.left.toArray ++ m.right.toArray ++ m.done

/-- The whole merged run when the first value of the right run belongs at its beginning. -/
def Merge.resultRightFirst (m : Merge) : Array Float :=
  m.right.toArray ++ m.left.toArray ++ m.done

def Merge.takeLeftEnd (m : Merge) (n : Nat) : Merge :=
  { m with left := m.left.dropLast n, done := (m.left.drop (m.left.size - n)).toArray ++ m.done }

def Merge.takeRightEnd (m : Merge) (n : Nat) : Merge :=
  { m with
    right := m.right.dropLast n, done := (m.right.drop (m.right.size - n)).toArray ++ m.done }

/-- Goes on with a merge from the end of both runs. -/
def mergeBackward : Nat → Option (Nat × Nat) → Merge → Array Float × Nat
  | 0, _, m => (m.resultBackward, m.patience)
  | fuel + 1, some (leftRow, rightRow), m =>
    if less (m.right.get (m.right.size - 1)) (m.left.get (m.left.size - 1)) then
      let m := m.takeLeftEnd 1
      if m.left.size = 0 then (m.resultBackward, m.patience)
      else if m.patience ≤ leftRow + 1 then
        mergeBackward fuel none { m with patience := m.patience + 1 }
      else mergeBackward fuel (some (leftRow + 1, 0)) m
    else
      let m := m.takeRightEnd 1
      if m.right.size = 1 then (m.resultRightFirst, m.patience)
      else if m.patience ≤ rightRow + 1 then
        mergeBackward fuel none { m with patience := m.patience + 1 }
      else mergeBackward fuel (some (0, rightRow + 1)) m
  | fuel + 1, none, m =>
    let m := { m with patience := if 1 < m.patience then m.patience - 1 else m.patience }
    let leftRow := m.left.size -
      countNotGreater less (m.right.get (m.right.size - 1)) m.left (m.left.size - 1)
    let m := m.takeLeftEnd leftRow
    if 0 < leftRow && m.left.size = 0 then (m.resultBackward, m.patience)
    else
      let m := m.takeRightEnd 1
      if m.right.size = 1 then (m.resultRightFirst, m.patience)
      else
        let rightRow := m.right.size -
          countLess less (m.left.get (m.left.size - 1)) m.right (m.right.size - 1)
        let m := m.takeRightEnd rightRow
        if 0 < rightRow && m.right.size = 1 then (m.resultRightFirst, m.patience)
        else if 0 < rightRow && m.right.size = 0 then (m.resultBackward, m.patience)
        else
          let m := m.takeLeftEnd 1
          if m.left.size = 0 then (m.resultBackward, m.patience)
          else if leastRow ≤ leftRow || leastRow ≤ rightRow then mergeBackward fuel none m
          else mergeBackward fuel (some (0, 0)) { m with patience := m.patience + 1 }

def wholeSpan (run : Array Float) : Span := ⟨run, 0, run.size⟩

/-- Merges what overlaps of two runs. The shorter one decides from which side. -/
def mergeOverlap (patience : Nat) (left right : Span) : Array Float × Nat :=
  let m : Merge := ⟨left, right, #[], patience⟩
  let fuel := 4 * (left.size + right.size) + 4
  if left.size ≤ right.size then
    let m := m.takeRight 1
    if m.right.size = 0 then (m.result, patience)
    else if m.left.size = 1 then (m.resultLeftLast, patience)
    else mergeForward less fuel (some (0, 0)) m
  else
    let m := m.takeLeftEnd 1
    if m.left.size = 0 then (m.resultBackward, patience)
    else if m.right.size = 1 then (m.resultRightFirst, patience)
    else mergeBackward less fuel (some (0, 0)) m

/-- Merges two neighbouring runs. Values at the beginning of the left run and at the end of the
right one that have their place already stay there. -/
def mergeRuns (patience : Nat) (left right : Array Float) : Array Float × Nat :=
  let settled := countNotGreater less (right.getD 0 0.0) (wholeSpan left) 0
  let front := (wholeSpan left).drop settled
  if front.size = 0 then (left ++ right, patience)
  else
    let moving :=
      countLess less (front.get (front.size - 1)) (wholeSpan right) (right.size - 1)
    if moving = 0 then (left ++ right, patience)
    else
      let (merged, patience) :=
        mergeOverlap less patience front ((wholeSpan right).dropLast (right.size - moving))
      (left.take settled ++ merged ++ right.extract moving right.size, patience)

/-! ## Runs -/

/-- How many values at the beginning go on as the first two do: each less than the one before, or
none of them less. -/
def runLength (descending : Bool) (before : Float) : List Float → Nat
  | [] => 0
  | x :: rest =>
    if less x before = descending then runLength descending x rest + 1 else 0

/-- Inserts a value into a run behind every value that it is not less than. -/
def insert (run : Array Float) (x : Float) : Array Float :=
  let i := bisect (fun i => !less x (run.getD i 0.0)) (run.size + 1) 0 run.size
  run.take i ++ #[x] ++ run.extract i run.size

/-- The run at the beginning, made longer by insertion until it has `least` values, and what follows
it. -/
def firstRun (least : Nat) (xs : List Float) : Array Float × List Float :=
  let (run, rest) := match xs with
    | a :: b :: more =>
      let descending := less b a
      let n := 2 + runLength less descending b more
      let run := (xs.take n).toArray
      (if descending then run.reverse else run, xs.drop n)
    | _ => (xs.toArray, [])
  let missing := least - run.size
  ((rest.take missing).foldl (insert less) run, rest.drop missing)

/-- The least length of a run: the six highest bits of the number of values, one more if any bit
below them is set. -/
def leastRun : Nat → Nat → Bool → Nat
  | 0, n, odd => n + odd.toNat
  | fuel + 1, n, odd =>
    if 64 ≤ n then leastRun fuel (n / 2) (odd || n % 2 = 1) else n + odd.toNat

/-- The depth at which the middles of two neighbouring runs fall apart when a whole of `n` values is
halved again and again; `a` and `b` are twice the middles. -/
def depthOf (n : Nat) : Nat → Nat → Nat → Nat
  | 0, _, _ => 1
  | fuel + 1, a, b =>
    if n ≤ a then depthOf n fuel (2 * (a - n)) (2 * (b - n)) + 1
    else if n ≤ b then 1
    else depthOf n fuel (2 * a) (2 * b) + 1

/-- A run that waits to be merged, where it starts, and the depth at which it borders on the next
one. -/
structure Pending where
  start : Nat
  run : Array Float
  depth : Nat := 0

/-- The runs that wait, the last one first. -/
abbrev Stack := List Pending

/-- Merges the two last runs as long as they border on each other deeper than `depth`. -/
def settle (depth : Nat) : Nat → Stack → Nat → Stack × Nat
  | 0, stack, patience => (stack, patience)
  | fuel + 1, last :: before :: rest, patience =>
    if depth < before.depth then
      let (merged, patience) := mergeRuns less patience before.run last.run
      settle depth fuel ({ before with run := merged } :: rest) patience
    else (last :: before :: rest, patience)
  | _ + 1, stack, patience => (stack, patience)

/-- Adds a new run to those that wait. -/
def push (n : Nat) (run : Array Float) (stack : Stack) (patience : Nat) : Stack × Nat :=
  match stack with
  | [] => ([⟨0, run, 0⟩], patience)
  | last :: _ =>
    let a := 2 * last.start + last.run.size
    let depth := depthOf n (n.log2 + 2) a (a + last.run.size + run.size)
    let start := last.start + last.run.size
    match settle less depth stack.length stack patience with
    | (top :: rest, patience) => (⟨start, run, 0⟩ :: { top with depth := depth } :: rest, patience)
    | ([], patience) => ([⟨start, run, 0⟩], patience)

/-- Merges all runs that wait. Of three, the two last ones are merged last if the first is the
shortest. -/
def collapse : Nat → Stack → Nat → Array Float
  | fuel + 1, last :: middle :: first :: rest, patience =>
    if first.run.size < last.run.size then
      let (merged, patience) := mergeRuns less patience first.run middle.run
      collapse fuel (last :: { first with run := merged } :: rest) patience
    else
      let (merged, patience) := mergeRuns less patience middle.run last.run
      collapse fuel ({ middle with run := merged } :: first :: rest) patience
  | fuel + 1, [last, first], patience =>
    let (merged, patience) := mergeRuns less patience first.run last.run
    collapse fuel [{ first with run := merged }] patience
  | _, stack, _ => stack.foldl (fun after p => p.run ++ after) #[]

/-- Cuts a list into runs and merges them. -/
def sortFrom (n least : Nat) : Nat → List Float → Stack → Nat → Array Float
  | fuel + 1, x :: xs, stack, patience =>
    let (run, rest) := firstRun less least (x :: xs)
    let (stack, patience) := push less n run stack patience
    sortFrom n least fuel rest stack patience
  | _, _, stack, patience => collapse less stack.length stack patience

/-- The values in ascending order, as far as they have one. -/
def sort (xs : List Float) : List Float :=
  let n := xs.length
  (sortFrom less n (leastRun (n.log2 + 1) n false) n xs [] leastRow).toList

end BuildBench.Statistics.NaturalMerge
