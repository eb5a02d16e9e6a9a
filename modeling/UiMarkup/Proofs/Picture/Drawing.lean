import Mathlib.Algebra.GroupWithZero.Nat
import Mathlib.Data.List.Forall2
import UiMarkup.Proofs.Component.Numbers

namespace UiMarkup.Raster

section Runs

variable {α : Type}

/-- The runs write out the values: none is empty, and the next run is one of another value. -/
structure Encodes (runs : List (Nat × α)) (values : List α) : Prop where
  filled : ∀ run ∈ runs, 0 < run.1
  apart : runs.IsChain fun left right => left.2 ≠ right.2
  spelled : (runs.flatMap fun run => List.replicate run.1 run.2) = values

theorem Encodes.sum_counts {runs : List (Nat × α)} {values : List α} (h : Encodes runs values) :
    (runs.map Prod.fst).sum = values.length := by
  rw [← h.spelled, List.length_flatMap]
  simp only [List.length_replicate]

variable [DecidableEq α]

theorem flatMap_runs (values : List α) :
    ((runs values).flatMap fun run => List.replicate run.1 run.2) = values := by
  induction values with
  | nil => rfl
  | cons a rest ih =>
    rw [runs]
    split
    · rename_i shape
      rw [shape] at ih
      rw [← ih]
      rfl
    · rename_i count b others shape
      rw [shape, List.flatMap_cons] at ih
      split
      · rename_i same
        rw [List.flatMap_cons, List.replicate_succ, List.cons_append, ih, same]
      · rw [List.flatMap_cons, List.flatMap_cons, ih]
        rfl

theorem isChain_runs (values : List α) :
    (runs values).IsChain fun left right => left.2 ≠ right.2 := by
  induction values with
  | nil => exact .nil
  | cons a rest ih =>
    rw [runs]
    split
    · exact .singleton _
    · rename_i count b others shape
      rw [shape] at ih
      split
      · -- only the count of the first run has changed
        cases others with
        | nil => exact .singleton _
        | cons next others =>
          rw [List.isChain_cons_cons] at ih ⊢
          exact ih
      · rename_i differs
        exact List.isChain_cons_cons.mpr ⟨differs, ih⟩

/-- The first run goes on as long as its value does, and the others are the runs of what is left. -/
theorem runs_cons (a : α) (rest : List α) :
    runs (a :: rest) =
      ((rest.takeWhile (· == a)).length + 1, a) :: runs (rest.dropWhile (· == a)) := by
  induction rest generalizing a with
  | nil => rfl
  | cons b rest ih =>
    rw [runs, ih b]
    dsimp only
    by_cases same : a = b
    · subst same
      simp only [List.takeWhile_cons, List.dropWhile_cons, beq_self_eq_true, if_true, List.length_cons]
    · have differs : (b == a) = false := by simpa using Ne.symm same
      simp only [List.takeWhile_cons, List.dropWhile_cons, differs, if_neg same, Bool.false_eq_true,
        if_false, List.length_nil, ih b]

/-- Reads a row from left to right: counts how often the value that comes next stands there, and goes
on behind that. -/
def scan : List α → List (Nat × α)
  | [] => []
  | a :: rest => ((rest.takeWhile (· == a)).length + 1, a) :: scan (rest.dropWhile (· == a))
termination_by values => values.length
decreasing_by exact Nat.lt_succ_of_le (List.dropWhile_suffix _).length_le

theorem runs_eq_scan (values : List α) : runs values = scan values := by
  induction values using scan.induct with
  | case1 => rw [scan, runs]
  | case2 a rest ih => rw [scan, runs_cons, ih]

theorem encodes_runs (values : List α) : Encodes (runs values) values where
  filled _ member := (count_of_mem_runs member).1
  apart := isChain_runs values
  spelled := flatMap_runs values

end Runs

section Colors

def hexPair (channel : UInt8) : List Char :=
  List.leftpad 2 '0' (Nat.toDigits 16 channel.toNat)

def shownColor (pixel : Pixel) : List Char :=
  let opacity := Decimal.shortest (Color.hundredths (pixel.alpha.toNat.toFloat / 255.0))
  '#' :: (hexPair pixel.red ++ hexPair pixel.green ++ hexPair pixel.blue) ++
    if pixel.alpha < 255 then '(' :: opacity.toList ++ [')'] else []

theorem channelDigits_eq_hexPair (channel : UInt8) :
    Color.channelDigits channel.toNat = hexPair channel := by
  have small : channel.toNat < 256 := channel.toNat_lt
  unfold Color.channelDigits hexPair
  by_cases single : channel.toNat < 16
  · rw [Nat.toDigits_of_lt_base single, Nat.div_eq_of_lt single, Nat.mod_eq_of_lt single]
    rfl
  · have digits := Nat.toDigits_append_toDigits (b := 16) (n := channel.toNat / 16)
      (d := channel.toNat % 16) (by decide) (by omega) (by omega)
    rw [Nat.toDigits_of_lt_base (by omega), Nat.toDigits_of_lt_base (by omega), Nat.div_add_mod] at digits
    rw [← digits]
    rfl

theorem toList_colorText (pixel : Pixel) : (colorText pixel).toList = shownColor pixel := by
  unfold colorText shownColor
  simp only [channelDigits_eq_hexPair]
  by_cases solid : pixel.alpha = 255
  · rw [if_pos solid, if_neg (by rw [solid]; decide), Color.opaqueColor]
    simp
  · have clear : pixel.alpha < 255 := by
      have bound := pixel.alpha.toNat_lt
      have differs : pixel.alpha.toNat ≠ 255 := fun same => solid (UInt8.toNat_inj.mp same)
      exact UInt8.lt_iff_toNat_lt.mpr (show pixel.alpha.toNat < 255 by omega)
    rw [if_neg solid, if_pos clear, Color.withAlpha]
    simp

end Colors

/-- The component draws a run with cells of the given side. -/
structure IsCell (side : Float) (run : Nat × Pixel) (node : Node) : Prop where
  name : node.name = some "Group"
  anchor : node.property? "Anchor" =
    some (.object [("Width", .number (run.1.toFloat * side)), ("Height", .number side)])
  background : node.property? "Background" =
    if 0 < run.2.alpha then some (.color (String.ofList (shownColor run.2))) else none
  children : node.children = []

structure IsRow (side : Float) (width : Nat) (pixels : List Pixel) (node : Node) : Prop where
  name : node.name = some "Group"
  cells : ∃ runs, Encodes runs pixels ∧ (runs.map Prod.fst).sum = width ∧
    List.Forall₂ (IsCell side) runs node.children

structure IsDrawing (side : Float) (width height : Nat) (rows : List (List Pixel)) (node : Node) : Prop where
  name : node.name = some "Group"
  length : node.children.length = height
  rows : List.Forall₂ (IsRow side width) rows node.children

theorem isCell_cell (side : Float) (run : Nat × Pixel) : IsCell side run (cell side run.1 run.2) := by
  have text : String.ofList (shownColor run.2) = colorText run.2 := by
    rw [← toList_colorText, String.ofList_toList]
  unfold cell
  by_cases shown : 0 < run.2.alpha
  · rw [if_pos shown]
    refine ⟨rfl, rfl, ?_, rfl⟩
    rw [if_pos shown, text]
    rfl
  · rw [if_neg shown]
    refine ⟨rfl, rfl, ?_, rfl⟩
    rw [if_neg shown]
    rfl

theorem isRow_row (side : Float) (pixels : List Pixel) :
    IsRow side pixels.length pixels (row side pixels) := by
  have encodes := encodes_runs pixels
  refine ⟨rfl, runs pixels, encodes, encodes.sum_counts, ?_⟩
  unfold row
  rw [List.forall₂_map_right_iff, List.forall₂_same]
  intro run _
  exact isCell_cell side run

theorem isDrawing_drawing (side : Float) {width height : Nat} {rows : List (List Pixel)}
    (isHeight : rows.length = height) (isWidth : ∀ pixels ∈ rows, pixels.length = width) :
    IsDrawing side width height rows (drawing side width height rows) := by
  refine ⟨rfl, ?_, ?_⟩
  · unfold drawing
    rw [List.length_map, isHeight]
  · unfold drawing
    rw [List.forall₂_map_right_iff, List.forall₂_same]
    intro pixels member
    rw [← isWidth pixels member]
    exact isRow_row side pixels

theorem image_of_picture {surroundings : Surroundings} {attributes : Fields String} {picture : Picture}
    {width height : Nat} {side : Float}
    (source : (Fields.value? attributes "src").getD "" ≠ "")
    (loaded : Resolution.loadPicture surroundings ((Fields.value? attributes "src").getD "") = .ok picture)
    (sized : gridSize attributes picture.width picture.height = .ok (width, height))
    (sided : pixelSize attributes = .ok side) :
    Resolution.image surroundings attributes =
      .ok (drawing side width height (picture.scaled width height)) := by
  have drawn : draw attributes picture =
      .ok (drawing side width height (picture.scaled width height)) := by
    unfold draw
    rw [sized, ok_bind, sided]
    rfl
  unfold Resolution.image
  simp only [source, ↓reduceIte, loaded]
  rw [ok_bind, drawn]

theorem scaled_grid (picture : Picture) (width height : Nat) :
    (picture.scaled width height).length = height ∧
      ∀ pixels ∈ picture.scaled width height, pixels.length = width := by
  unfold Picture.scaled
  refine ⟨by simp, ?_⟩
  intro pixels member
  obtain ⟨y, _, rfl⟩ := List.mem_map.mp member
  simp

/-- Every grid of pixels is drawn by its rows, and an image element whose picture, size and side of
cells are accepted gives the drawing of such a grid. -/
theorem image_encodes :
    (∀ (side : Float) (width height : Nat) (rows : List (List Pixel)), rows.length = height →
      (∀ pixels ∈ rows, pixels.length = width) →
      IsDrawing side width height rows (drawing side width height rows)) ∧
    ∀ (surroundings : Surroundings) (attributes : Fields String) (picture : Picture) (width height : Nat)
      (side : Float), (Fields.value? attributes "src").getD "" ≠ "" →
      Resolution.loadPicture surroundings ((Fields.value? attributes "src").getD "") = .ok picture →
      gridSize attributes picture.width picture.height = .ok (width, height) →
      pixelSize attributes = .ok side →
      1 ≤ width ∧ 1 ≤ height ∧ ∃ rows node, rows = picture.scaled width height ∧ rows.length = height ∧
        (∀ pixels ∈ rows, pixels.length = width) ∧
        Resolution.image surroundings attributes = .ok node ∧ IsDrawing side width height rows node := by
  refine ⟨fun side _ _ _ isHeight isWidth => isDrawing_drawing side isHeight isWidth, ?_⟩
  intro surroundings attributes picture width height side source loaded sized sided
  obtain ⟨⟨filledWidth, _⟩, filledHeight, _⟩ := gridSize_bounds sized
  obtain ⟨isHeight, isWidth⟩ := scaled_grid picture width height
  exact ⟨filledWidth, filledHeight, _, _, rfl, isHeight, isWidth, image_of_picture source loaded sized sided,
    isDrawing_drawing side isHeight isWidth⟩

def stripes : Surroundings where
  registry := .empty
  openFile _ := .file [137, 80, 78, 71, 13, 10, 26, 10, 0, 0, 0, 13, 73, 72, 68, 82, 0, 0, 0, 3, 0, 0, 0, 1,
    8, 6, 0, 0, 0, 27, 224, 20, 180, 0, 0, 0, 24, 73, 68, 65, 84, 120, 1, 1, 13, 0, 242, 255, 0, 255, 0, 0,
    255, 255, 0, 0, 255, 0, 0, 0, 0, 33, 235, 3, 253, 85, 151, 222, 206, 0, 0, 0, 0, 73, 69, 78, 68, 174, 66,
    96, 130]
  directory := none

/-- Two red pixels and a clear one, with cells of side two. -/
theorem image_encodes_stripes :
    let red : Pixel := ⟨255, 0, 0, 255⟩
    let attributes : Fields String := [("src", "flag.png"), ("pixel-size", "2")]
    ∃ node, Resolution.image stripes attributes = .ok node ∧
      IsDrawing 2.0 3 1 [[red, red, Picture.clear]] node := by
  intro red attributes
  obtain ⟨picture, loaded, shape⟩ := ok_of_toOption_map
    (show (Resolution.loadPicture stripes "flag.png").toOption.map
        (fun picture => (picture.width, picture.height, picture.scaled 3 1)) =
      some (3, 1, [[red, red, Picture.clear]]) by decide +kernel)
  obtain ⟨isWidth, shape⟩ := Prod.mk.inj shape
  obtain ⟨isHeight, pixels⟩ := Prod.mk.inj shape
  obtain ⟨side, sided, isSide⟩ := ok_of_toOption_map
    (show (pixelSize attributes).toOption.map id = some 2.0 by decide +kernel)
  obtain rfl : side = 2.0 := isSide
  have sized : gridSize attributes picture.width picture.height = .ok (3, 1) := by
    rw [isWidth, isHeight]
    rfl
  obtain ⟨_, _, rows, node, rfl, _, _, drawn, isDrawing⟩ :=
    image_encodes.2 stripes attributes picture 3 1 2.0 (by decide) loaded sized sided
  rw [pixels] at isDrawing
  exact ⟨node, drawn, isDrawing⟩

end UiMarkup.Raster
