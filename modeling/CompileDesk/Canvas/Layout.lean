/-! # Dividing space

A stretch of cells is divided among parts that ask for a number of cells, for a share, or for whatever
is left but at least a number of cells. Sizes are computed in hundredths of a cell and the borders are
rounded to the nearest cell. When there is too little space, the parts that asked for a number or a
share give way, evenly: what is taken from them makes the sizes of neighbours differ as little as
possible.
-/

namespace CompileDesk.Canvas

/-- What a part of a stretch asks for. -/
inductive Demand where
  | exactly (cells : Nat)
  | share (percent : Nat)
  | atLeast (cells : Nat)
  deriving DecidableEq, Repr

/-- Neighbouring parts of one size, in hundredths. A firm run does not give way. -/
structure Level where
  size : Nat
  count : Nat
  firm : Bool
  deriving DecidableEq, Repr

namespace Level

/-- Joins neighbouring runs of one size; a firm run stays apart from one that gives way. -/
def merged : List Level → List Level
  | [] => []
  | l :: rest =>
    match merged rest with
    | [] => [l]
    | next :: more =>
      if l.size = next.size ∧ l.firm = next.firm then ⟨l.size, l.count + next.count, l.firm⟩ :: more
      else l :: next :: more

/-- How many of a run's neighbours are lower, less how many are higher. -/
def drop (size : Nat) (neighbour : Option Level) : Int :=
  match neighbour with
  | none => 0
  | some n => if n.size < size then 1 else -1

/-- The size down to which a run can be lowered before it meets a neighbour. -/
def floor (size : Nat) (before after : Option Level) : Nat :=
  let under (n : Option Level) : Nat :=
    match n with
    | some n => if n.size < size then n.size else 0
    | none => 0
  max (under before) (under after)

/-- Lowering the run at a place: how much the differences shrink for each part lowered, and the size at
which that ends. -/
structure Move where
  place : Nat
  gain : Int
  count : Nat
  down : Nat

def moves : Nat → Option Level → List Level → List Move
  | _, _, [] => []
  | place, before, l :: rest =>
    let others := moves (place + 1) (some l) rest
    if l.firm || l.size = 0 then others
    else
      ⟨place, drop l.size before + drop l.size rest.head?, l.count,
        floor l.size before rest.head?⟩ :: others

/-- The move with the greatest gain for each part lowered; of equal ones the first. -/
def best : List Move → Option Move
  | [] => none
  | m :: rest =>
    match best rest with
    | none => some m
    | some n => if m.gain * n.count ≥ n.gain * m.count then some m else some n

def lowered (place size : Nat) (levels : List Level) : List Level :=
  levels.modify place fun l => { l with size }

/-- Takes an excess from the runs. Each round ends it, or joins runs, or lowers a run to nothing. -/
def relieved : Nat → Nat → List Level → List Level
  | 0, _, levels => levels
  | fuel + 1, excess, levels =>
    match best (moves 0 none levels) with
    | none => levels
    | some m =>
      let size := (levels[m.place]?.map Level.size).getD 0
      let step := min (excess / m.count) (size - m.down)
      let levels := merged (lowered m.place (size - step) levels)
      if excess ≤ step * m.count || step = 0 then levels
      else relieved fuel (excess - step * m.count) levels

def sizes (levels : List Level) : List Nat := levels.flatMap fun l => List.replicate l.count l.size

end Level

namespace Demand

/-- The size that a part asks for, out of a stretch of so many cells with so many hundredths left by the
gaps. -/
def wanted (cells available : Nat) : Demand → Nat
  | exactly n => n * 100
  | share p => cells * p
  | atLeast n => min (n * 100) available

/-- Whether a part keeps what it asked for. -/
def isFirm : Demand → Bool
  | atLeast _ => true
  | _ => false

/-- Adds what is left over to the first part that takes it. -/
def filled (surplus : Nat) : List Demand → List Nat → List Nat
  | d :: ds, size :: sizes =>
    if d.isFirm then (size + surplus) :: sizes else size :: filled surplus ds sizes
  | _, sizes => sizes

def total : List Nat → Nat
  | [] => 0
  | size :: rest => size + total rest

/-- The sizes of all parts, in hundredths. -/
def sizes (cells gap : Nat) (demands : List Demand) : List Nat :=
  let available := cells * 100 - gap * 100 * (demands.length - 1)
  let asked := demands.map (wanted cells available)
  if total asked ≤ available then filled (available - total asked) demands asked
  else
    let levels := demands.map fun d => Level.mk (d.wanted cells available) 1 d.isFirm
    Level.sizes (Level.relieved (2 * demands.length + 1) (total asked - available) (Level.merged levels))

end Demand

/-- A number of hundredths rounded to whole ones; a half goes up. -/
def rounded (hundredths : Nat) : Nat := (hundredths + 50) / 100

def placed (gap : Nat) : Nat → List Nat → List (Nat × Nat)
  | _, [] => []
  | position, size :: rest =>
    let first := rounded position
    (first, rounded (position + size) - first) :: placed gap (position + size + gap * 100) rest

/-- Divides the cells from a place on. The result has a place and a length for each part. -/
def divided (start cells gap : Nat) (demands : List Demand) : List (Nat × Nat) :=
  placed gap (start * 100) (Demand.sizes cells gap demands)

structure Rect where
  x : Nat
  y : Nat
  width : Nat
  height : Nat
  deriving DecidableEq, Repr

namespace Rect

def empty : Rect := ⟨0, 0, 0, 0⟩

def isEmpty (r : Rect) : Bool := r.width = 0 || r.height = 0

/-- The rectangle without its outermost cells; without any cells if it is too small. -/
def shrunk (r : Rect) : Rect :=
  if r.width < 2 || r.height < 2 then empty else ⟨r.x + 1, r.y + 1, r.width - 2, r.height - 2⟩

def framed (r : Rect) : Rect :=
  ⟨min (r.x + 1) (r.x + r.width), min (r.y + 1) (r.y + r.height), r.width - 2, r.height - 2⟩

def rows (r : Rect) (demands : List Demand) : List Rect :=
  (divided r.y r.height 0 demands).map fun (y, height) => { r with y, height }

def columns (r : Rect) (gap : Nat) (demands : List Demand) : List Rect :=
  (divided r.x r.width gap demands).map fun (x, width) => { r with x, width }

def part (parts : List Rect) (n : Nat) : Rect := parts[n]?.getD empty

def centred (r : Rect) (widthShare heightShare : Nat) : Rect :=
  let middle (share : Nat) : List Demand :=
    [.share ((100 - share) / 2), .share share, .share ((100 - share) / 2)]
  part ((part (r.rows (middle heightShare)) 1).columns 0 (middle widthShare)) 1

end Rect
end CompileDesk.Canvas
