import SasCore.Lib.Bilinear
import SasCore.Lib.Collect
import SasCore.Lib.Lru
import Mathlib.Data.Rat.Floor
import Mathlib.Tactic.NormNum
import Mathlib.Tactic.Positivity

set_option autoImplicit false
set_option linter.unusedSectionVars false

namespace SasCore.Terrain

open Bilinear

variable {K : Type} [Field K] [LinearOrder K]

inductive TerrainError where
  | coordinate (message : String)
  | dataUnavailable (message : String)
  | read (message : String)
deriving DecidableEq, Repr

def numPixelOverlap : Nat := 6
def tileBaseDim : Nat := 3600
def tileDim : Nat := tileBaseDim + 2 * numPixelOverlap
def tileBytes : Nat := tileDim * tileDim * 4
def nodataThreshold : K := -(900 : Nat)

abbrev TileKey := Int × Int

-- The directory of a provider: its files, and a little-endian float of four bytes.
structure TerrainDir (K : Type) where
  isFile : String → Bool
  readBytes : String → Except String (List UInt8)
  float32 : UInt8 → UInt8 → UInt8 → UInt8 → K

structure Tile (K : Type) where
  values : List K
  complete : values.length = tileDim * tileDim

section Files

variable (dir : TerrainDir K)

def padded (width number : Nat) : List Char :=
  List.replicate (width - (Nat.toDigits 10 number).length) '0' ++ Nat.toDigits 10 number

def tileEncoding (key : TileKey) : List Char :=
  (if 0 ≤ key.1 then 'n' else 's') :: padded 2 key.1.natAbs ++ (if 0 ≤ key.2 then 'e' else 'w') :: padded 3 key.2.natAbs

def tileNames (key : TileKey) : List String :=
  [String.ofList ("usgs_ned_1_".toList ++ tileEncoding key ++ "_gridfloat_std.flt".toList),
    String.ofList ("float".toList ++ tileEncoding key ++ "_1_std.flt".toList)]

def tilePath (key : TileKey) : Except TerrainError String :=
  match (tileNames key).find? dir.isFile with
  | some name => .ok name
  | none => .error (.dataUnavailable ("NED tile missing for NW=" ++ String.ofList (tileEncoding key)))

-- struct.unpack of floats, four bytes each.
def unpack (float32 : UInt8 → UInt8 → UInt8 → UInt8 → K) : List UInt8 → List K
  | a :: b :: c :: d :: rest => float32 a b c d :: unpack float32 rest
  | _ => []

theorem unpack_length (float32 : UInt8 → UInt8 → UInt8 → UInt8 → K) (count : Nat) (raw : List UInt8)
    (size : raw.length = count * 4) : (unpack float32 raw).length = count := by
  induction count generalizing raw with
  | zero =>
      rw [List.length_eq_zero_iff.mp (size.trans (Nat.zero_mul 4))]
      rfl
  | succ count ih =>
      match raw, size with
      | a :: b :: c :: d :: rest, size =>
          simp only [List.length_cons] at size
          rw [unpack, List.length_cons, ih rest (by omega)]
      | [], size => simp at size
      | [_], size => simp at size; omega
      | [_, _], size => simp at size; omega
      | [_, _, _], size => simp at size; omega

def readTile (key : TileKey) : Except TerrainError (Tile K) := do
  let path ← tilePath dir key
  match dir.readBytes path with
  | .error reason => .error (.read ("cannot read NED tile " ++ path ++ ": " ++ reason))
  | .ok raw =>
      if size : raw.length = tileBytes then
        .ok ⟨unpack dir.float32 raw, unpack_length dir.float32 (tileDim * tileDim) raw size⟩
      else .error (.read ("unexpected NED tile size for " ++ path))

theorem read_tile_complete (key : TileKey) (path : String) (raw : List UInt8) (found : tilePath dir key = .ok path)
    (bytes : dir.readBytes path = .ok raw) (size : raw.length = tileBytes) :
    readTile dir key = .ok ⟨unpack dir.float32 raw, unpack_length dir.float32 (tileDim * tileDim) raw size⟩ := by
  rw [readTile, found]
  change (match dir.readBytes path with | .error reason => _ | .ok raw => _) = _
  rw [bytes]
  exact dif_pos size

end Files

section Samples

theorem tile_index (row col : Int) (inside : ¬ (row < 0 ∨ col < 0 ∨ (tileDim : Int) ≤ row ∨ (tileDim : Int) ≤ col)) :
    row.toNat * tileDim + col.toNat < tileDim * tileDim := by
  simp only [tileDim, tileBaseDim, numPixelOverlap] at inside ⊢
  omega

def sample (tile : Tile K) (row col : Int) : Except TerrainError K :=
  if inside : row < 0 ∨ col < 0 ∨ (tileDim : Int) ≤ row ∨ (tileDim : Int) ≤ col then
    .error (.dataUnavailable "NED sample indices out of tile bounds")
  else
    let value := tile.values.get ⟨row.toNat * tileDim + col.toNat, by rw [tile.complete]; exact tile_index row col inside⟩
    .ok (if value < nodataThreshold then 0 else value)

variable [FloorRing K]

def floatX (lon : K) (ilon : Int) : K := numPixelOverlap + tileBaseDim * (lon - ilon) - 1 / (2 : Nat)

def floatY (lat : K) (ilat : Int) : K := numPixelOverlap + tileBaseDim * (ilat - lat) - 1 / (2 : Nat)

def elevationOn (tile : Tile K) (key : TileKey) (lat lon : K) : Except TerrainError K := do
  let xm := ⌊floatX lon key.2⌋
  let ym := ⌊floatY lat key.1⌋
  let alphaX := floatX lon key.2 - xm
  let alphaY := floatY lat key.1 - ym
  let ymxm ← sample tile ym xm
  let ymxp ← sample tile ym (xm + 1)
  let ypxm ← sample tile (ym + 1) xm
  let ypxp ← sample tile (ym + 1) (xm + 1)
  return alphaX * alphaY * ypxp + alphaX * (1 - alphaY) * ymxp + (1 - alphaX) * (1 - alphaY) * ymxm +
    (1 - alphaX) * alphaY * ypxm

end Samples

section Provider

variable [FloorRing K]

def validateCoords (lat lon : K) : Except TerrainError Unit :=
  if lat < -(90 : Nat) ∨ (90 : Nat) < lat then .error (.coordinate "latitude out of range")
  else if lon < -(180 : Nat) ∨ (180 : Nat) < lon then .error (.coordinate "longitude out of range")
  else .ok ()

def tileOf (lat lon : K) : TileKey := (⌈lat⌉, ⌊lon⌋)

-- NedTerrainProvider.elevation_m with its tile cache before and after.
def elevationM (dir : TerrainDir K) (cacheSize : Nat) (cache : Lru.Cache TileKey (Tile K)) (lat lon : K) :
    Except TerrainError K × Lru.Cache TileKey (Tile K) :=
  match validateCoords lat lon with
  | .error fault => (.error fault, cache)
  | .ok _ =>
      let fetched := Lru.fetch (readTile dir) (max 1 cacheSize) (tileOf lat lon) cache
      (fetched.1 >>= fun tile => elevationOn tile (tileOf lat lon) lat lon, fetched.2)

-- The same read straight from the directory.
def groundElevation (dir : TerrainDir K) (lat lon : K) : Except TerrainError K := do
  validateCoords lat lon
  let tile ← readTile dir (tileOf lat lon)
  elevationOn tile (tileOf lat lon) lat lon

-- A list comprehension over places: the first read that raises ends it.
def elevationsAt (dir : TerrainDir K) (cacheSize : Nat) : List (K × K) → Lru.Cache TileKey (Tile K) →
    Except TerrainError (List K) × Lru.Cache TileKey (Tile K)
  | [], cache => (.ok [], cache)
  | place :: rest, cache =>
      let first := elevationM dir cacheSize cache place.1 place.2
      match first.1 with
      | .error fault => (.error fault, first.2)
      | .ok elevation =>
          let others := elevationsAt dir cacheSize rest first.2
          (others.1.map (elevation :: ·), others.2)

-- The calls of elevation_m over the life of a provider, whatever each of them ends with.
def serve (dir : TerrainDir K) (cacheSize : Nat) : List (K × K) → Lru.Cache TileKey (Tile K) →
    List (Except TerrainError K) × Lru.Cache TileKey (Tile K)
  | [], cache => ([], cache)
  | place :: rest, cache =>
      let first := elevationM dir cacheSize cache place.1 place.2
      let others := serve dir cacheSize rest first.2
      (first.1 :: others.1, others.2)

-- The tiles that calls could read, in their order.
def tilesRead (dir : TerrainDir K) (places : List (K × K)) : List TileKey :=
  (places.filter fun place => (validateCoords place.1 place.2).isOk && (readTile dir (tileOf place.1 place.2)).isOk).map
    fun place => tileOf place.1 place.2

end Provider

section Cached

variable [FloorRing K] (dir : TerrainDir K) (cacheSize : Nat)

theorem elevation_recent (history : List TileKey) (cache : Lru.Cache TileKey (Tile K))
    (recent : Lru.Recent (readTile dir) (max 1 cacheSize) history cache) (lat lon : K) :
    (elevationM dir cacheSize cache lat lon).1 = groundElevation dir lat lon ∧
      Lru.Recent (readTile dir) (max 1 cacheSize) (history ++ tilesRead dir [(lat, lon)]) (elevationM dir cacheSize cache lat lon).2 := by
  rw [elevationM, groundElevation]
  cases valid : validateCoords lat lon with
  | error fault =>
      have unread : tilesRead dir [(lat, lon)] = [] := by simp [tilesRead, valid, Except.isOk, Except.toBool]
      rw [unread, List.append_nil]
      exact ⟨rfl, recent⟩
  | ok checked =>
      obtain ⟨answer, after⟩ := Lru.fetch_recent (readTile dir) (max 1 cacheSize) (by omega) history cache recent (tileOf lat lon)
      have read : tilesRead dir [(lat, lon)] = [tileOf lat lon].filter fun key => (readTile dir key).isOk := by
        have checkedOk : (validateCoords lat lon).isOk = true := by
          rw [valid]
          rfl
        cases loaded : (readTile dir (tileOf lat lon)).isOk <;> simp [tilesRead, checkedOk, loaded]
      rw [read]
      dsimp only
      rw [answer]
      exact ⟨rfl, after⟩

theorem tiles_read_cons (place : K × K) (rest : List (K × K)) :
    tilesRead dir (place :: rest) = tilesRead dir [place] ++ tilesRead dir rest := by
  rw [tilesRead, tilesRead, tilesRead, ← List.map_append, ← List.filter_append, List.singleton_append]

theorem serve_recent (places : List (K × K)) (history : List TileKey) (cache : Lru.Cache TileKey (Tile K))
    (recent : Lru.Recent (readTile dir) (max 1 cacheSize) history cache) :
    (serve dir cacheSize places cache).1 = places.map (fun place => groundElevation dir place.1 place.2) ∧
      Lru.Recent (readTile dir) (max 1 cacheSize) (history ++ tilesRead dir places) (serve dir cacheSize places cache).2 := by
  induction places generalizing history cache with
  | nil =>
      refine ⟨rfl, ?_⟩
      have none : tilesRead dir ([] : List (K × K)) = [] := rfl
      rw [none, List.append_nil]
      exact recent
  | cons place rest ih =>
      obtain ⟨answer, after⟩ := elevation_recent dir cacheSize history cache recent place.1 place.2
      obtain ⟨answers, last⟩ := ih _ _ after
      rw [serve, tiles_read_cons, ← List.append_assoc, List.map_cons, ← answer, ← answers]
      exact ⟨rfl, last⟩

theorem elevations_recent (places : List (K × K)) (history : List TileKey) (cache : Lru.Cache TileKey (Tile K))
    (recent : Lru.Recent (readTile dir) (max 1 cacheSize) history cache) :
    (elevationsAt dir cacheSize places cache).1 = places.mapM (fun place => groundElevation dir place.1 place.2) ∧
      ∃ later, Lru.Recent (readTile dir) (max 1 cacheSize) later (elevationsAt dir cacheSize places cache).2 := by
  induction places generalizing history cache with
  | nil => exact ⟨rfl, history, recent⟩
  | cons place rest ih =>
      obtain ⟨answer, after⟩ := elevation_recent dir cacheSize history cache recent place.1 place.2
      rw [elevationsAt, List.mapM_cons, ← answer]
      dsimp only
      cases (elevationM dir cacheSize cache place.1 place.2).1 with
      | error fault => exact ⟨rfl, _, after⟩
      | ok elevation =>
          obtain ⟨answers, last⟩ := ih _ _ after
          rw [← answers]
          dsimp only
          refine ⟨?_, last⟩
          cases (elevationsAt dir cacheSize rest (elevationM dir cacheSize cache place.1 place.2).2).1 <;> rfl

theorem empty_recent : Lru.Recent (readTile dir) (max 1 cacheSize) [] (Lru.empty : Lru.Cache TileKey (Tile K)) := by
  refine ⟨⟨fun key => Iff.rfl, List.nodup_nil, fun entry member => (List.not_mem_nil member).elim⟩, ?_⟩
  exact List.rtake_nil _ |>.symm

-- A provider answers every call as the directory does, and holds the tiles it read last.
theorem ned_serves_directory (places : List (K × K)) :
    (serve dir cacheSize places Lru.empty).1 = places.map (fun place => groundElevation dir place.1 place.2) ∧
      (serve dir cacheSize places Lru.empty).2.order = (Lru.recency (tilesRead dir places)).rtake (max 1 cacheSize) ∧
      (∀ key, key ∈ Lru.keys (serve dir cacheSize places Lru.empty).2 ↔
        key ∈ (Lru.recency (tilesRead dir places)).rtake (max 1 cacheSize)) ∧
      ∀ entry ∈ (serve dir cacheSize places Lru.empty).2.entries, readTile dir entry.1 = .ok entry.2 := by
  obtain ⟨answers, recent⟩ := serve_recent dir cacheSize places [] Lru.empty (empty_recent dir cacheSize)
  rw [List.nil_append] at recent
  refine ⟨answers, recent.order, fun key => ?_, recent.sound.right⟩
  rw [← recent.order]
  exact recent.sound.known key

end Cached

section Raster

variable [IsStrictOrderedRing K] [FloorRing K]

-- Pixels of one raster: a tile is its window with the northwest corner of the tile's degree at the overlap.
def Window (raster : Int → Int → K) (key : TileKey) (tile : Tile K) : Prop :=
  ∀ row col : Int, 0 ≤ row → row < tileDim → 0 ≤ col → col < tileDim →
    sample tile row col = .ok (raster (row + -(tileBaseDim * key.1)) (col + tileBaseDim * key.2))

def rasterElevation (raster : Int → Int → K) (lat lon : K) : K := bilinear raster (floatY lat 0) (floatX lon 0)

-- The whole square degree of the tile with its border.
structure Covers (key : TileKey) (lat lon : K) : Prop where
  south : (key.1 : K) - 1 ≤ lat
  north : lat ≤ key.1
  west : (key.2 : K) ≤ lon
  east : lon ≤ key.2 + 1

theorem tile_of_covers (lat lon : K) : Covers (tileOf lat lon) lat lon :=
  ⟨by have below := Int.ceil_lt_add_one lat; simp only [tileOf]; linarith, Int.le_ceil lat, Int.floor_le lon,
    (Int.lt_floor_add_one lon).le⟩

-- Between the pixels 5 and 3605 of a tile all four samples are inside.
theorem float_between (part : K) (nonneg : 0 ≤ part) (small : part ≤ 1) (x : K)
    (isX : x = numPixelOverlap + tileBaseDim * part - 1 / (2 : Nat)) : 0 ≤ ⌊x⌋ ∧ ⌊x⌋ + 1 < tileDim := by
  have low : (5 : Int) ≤ ⌊x⌋ := by
    refine Int.le_floor.mpr ?_
    rw [isX]
    simp only [numPixelOverlap, tileBaseDim]
    push_cast
    linarith
  have high : ⌊x⌋ < 3606 := by
    refine Int.floor_lt.mpr ?_
    rw [isX]
    simp only [numPixelOverlap, tileBaseDim]
    push_cast
    linarith
  simp only [tileDim, tileBaseDim, numPixelOverlap]
  omega

variable (raster : Int → Int → K)

theorem elevation_on_window (key : TileKey) (tile : Tile K) (window : Window raster key tile) (lat lon : K)
    (covers : Covers key lat lon) : elevationOn tile key lat lon = .ok (rasterElevation raster lat lon) := by
  have southPart : (key.1 : K) - lat ≤ 1 := by linarith [covers.south]
  have eastPart : lon - (key.2 : K) ≤ 1 := by linarith [covers.east]
  obtain ⟨rowLow, rowHigh⟩ := float_between _ (sub_nonneg.mpr covers.north) southPart (floatY lat key.1) rfl
  obtain ⟨colLow, colHigh⟩ := float_between _ (sub_nonneg.mpr covers.west) eastPart (floatX lon key.2) rfl
  have row : floatY lat key.1 = floatY lat 0 - ((-(tileBaseDim * key.1) : Int) : K) := by
    simp only [floatY]
    push_cast
    ring
  have col : floatX lon key.2 = floatX lon 0 - ((tileBaseDim * key.2 : Int) : K) := by
    simp only [floatX]
    push_cast
    ring
  have shifted := bilinear_shift raster (floatY lat 0) (floatX lon 0) (-(tileBaseDim * key.1)) (tileBaseDim * key.2)
  rw [← row, ← col] at shifted
  rw [rasterElevation, ← shifted, elevationOn]
  rw [window _ _ rowLow (by omega) colLow (by omega), window _ _ rowLow (by omega) (by omega) colHigh,
    window _ _ (by omega) rowHigh colLow (by omega), window _ _ (by omega) rowHigh (by omega) colHigh]
  refine congrArg Except.ok ?_
  simp only [bilinear, lerp]
  ring

-- The files of the directory are windows of one raster.
def Consistent (dir : TerrainDir K) : Prop := ∀ key tile, readTile dir key = .ok tile → Window raster key tile

theorem ground_elevation (dir : TerrainDir K) (consistent : Consistent raster dir) (lat lon : K) :
    groundElevation dir lat lon =
      (validateCoords lat lon >>= fun _ => readTile dir (tileOf lat lon)).map fun _ => rasterElevation raster lat lon := by
  rw [groundElevation]
  cases validateCoords lat lon with
  | error fault => rfl
  | ok checked =>
      cases read : readTile dir (tileOf lat lon) with
      | error fault => rfl
      | ok tile => exact elevation_on_window raster (tileOf lat lon) tile (consistent _ _ read) lat lon (tile_of_covers lat lon)

theorem ground_elevation_read (dir : TerrainDir K) (consistent : Consistent raster dir) (lat lon : K) (tile : Tile K)
    (valid : validateCoords lat lon = .ok ()) (read : readTile dir (tileOf lat lon) = .ok tile) :
    groundElevation dir lat lon = .ok (rasterElevation raster lat lon) := by
  rw [ground_elevation raster dir consistent, valid]
  simp only [bind, Except.bind, read, Except.map]

theorem ground_elevation_raster (dir : TerrainDir K) (consistent : Consistent raster dir) (lat lon elevation : K)
    (found : groundElevation dir lat lon = .ok elevation) : elevation = rasterElevation raster lat lon := by
  rw [ground_elevation raster dir consistent] at found
  obtain ⟨tile, _, same⟩ := Collect.map_ok _ _ _ found
  exact same.symm

theorem raster_slope (bound : K) (rowsGentle : ∀ col, Gentle bound fun row => raster row col)
    (colsGentle : ∀ row, Gentle bound (raster row)) (lat lon lat' lon' : K) :
    |rasterElevation raster lat' lon' - rasterElevation raster lat lon| ≤
      bound * tileBaseDim * (|lat' - lat| + |lon' - lon|) := by
  have slope := bilinear_slope raster bound rowsGentle colsGentle (floatY lat 0) (floatX lon 0) (floatY lat' 0) (floatX lon' 0)
  have positive : (0 : K) ≤ tileBaseDim := Nat.cast_nonneg _
  have rows : floatY lat' 0 - floatY lat 0 = -(tileBaseDim * (lat' - lat)) := by
    simp only [floatY]
    ring
  have cols : floatX lon' 0 - floatX lon 0 = tileBaseDim * (lon' - lon) := by
    simp only [floatX]
    ring
  rw [rows, cols, abs_neg, abs_mul, abs_mul, abs_of_nonneg positive, ← mul_add, ← mul_assoc] at slope
  exact slope

-- The pixels of one tile as a raster of its own.
def ownRaster (key : TileKey) (tile : Tile K) (row col : Int) : K :=
  match sample tile (row + tileBaseDim * key.1) (col - tileBaseDim * key.2) with
  | .ok value => value
  | .error _ => 0

theorem own_window (key : TileKey) (tile : Tile K) : Window (ownRaster key tile) key tile := by
  intro row col rowLow rowHigh colLow colHigh
  have inside : ¬ (row < 0 ∨ col < 0 ∨ (tileDim : Int) ≤ row ∨ (tileDim : Int) ≤ col) := by omega
  have sampled : ∃ value, sample tile row col = .ok value := by
    rw [sample, dif_neg inside]
    exact ⟨_, rfl⟩
  obtain ⟨value, isValue⟩ := sampled
  rw [ownRaster, neg_add_cancel_right, add_sub_cancel_right, isValue]

-- Within the square degree of a tile no sample is out of its bounds. Where the files are windows of one raster, every tile that
-- reaches a place gives the same elevation there, and elevations differ no more than the raster rises between the places.
theorem ned_seamless (dir : TerrainDir K) (consistent : Consistent raster dir) (bound : K)
    (rowsGentle : ∀ col, Gentle bound fun row => raster row col) (colsGentle : ∀ row, Gentle bound (raster row)) :
    (∀ key (tile : Tile K) lat lon, Covers key lat lon → ∃ elevation, elevationOn tile key lat lon = .ok elevation) ∧
      (∀ key tile lat lon, readTile dir key = .ok tile → Covers key lat lon →
        elevationOn tile key lat lon = .ok (rasterElevation raster lat lon)) ∧
      ∀ lat lon elevation lat' lon' elevation', groundElevation dir lat lon = .ok elevation →
        groundElevation dir lat' lon' = .ok elevation' →
          |elevation' - elevation| ≤ bound * tileBaseDim * (|lat' - lat| + |lon' - lon|) := by
  refine ⟨fun key tile lat lon covers => ?_, fun key tile lat lon read covers => ?_, fun lat lon elevation lat' lon' elevation' => ?_⟩
  · exact ⟨_, elevation_on_window (ownRaster key tile) key tile (own_window key tile) lat lon covers⟩
  · exact elevation_on_window raster key tile (consistent key tile read) lat lon covers
  · intro found found'
    rw [ground_elevation_raster raster dir consistent lat lon elevation found,
      ground_elevation_raster raster dir consistent lat' lon' elevation' found']
    exact raster_slope raster bound rowsGentle colsGentle lat lon lat' lon'

end Raster

section Terrace

-- A little-endian IEEE single with a normal exponent.
def single (a b c d : UInt8) : Rat :=
  let exponent : Int := (d.toNat % 128 * 2 + c.toNat / 128 : Nat) - 127
  let fraction : Rat := ((c.toNat % 128 * 65536 + b.toNat * 256 + a.toNat : Nat) : Rat) / (2 ^ 23 : Nat)
  (if 128 ≤ d.toNat then -1 else 1) * (1 + fraction) * 2 ^ exponent

-- The first six columns of every degree lie at 118 m, the others at 110 m.
def terrace (_ col : Int) : Rat := if col % tileBaseDim < 6 then 118 else 110

def pixelBytes (index : Nat) : List UInt8 :=
  if index % tileDim % tileBaseDim < 6 then [0, 0, 236, 66] else [0, 0, 220, 66]

def terraceRaw : List UInt8 := (List.range (tileDim * tileDim)).flatMap pixelBytes

def terraceDir : TerrainDir Rat := ⟨fun _ => true, fun _ => .ok terraceRaw, single⟩

theorem pixels_length (pixels : List Nat) : (pixels.flatMap pixelBytes).length = pixels.length * 4 := by
  induction pixels with
  | nil => rfl
  | cons index rest ih =>
      have four : (pixelBytes index).length = 4 := by
        rw [pixelBytes]
        split <;> rfl
      rw [List.flatMap_cons, List.length_append, ih, four, List.length_cons]
      omega

theorem unpack_pixels (pixels : List Nat) :
    unpack single (pixels.flatMap pixelBytes) = pixels.map fun index => terrace 0 (index % tileDim : Nat) := by
  induction pixels with
  | nil => rfl
  | cons index rest ih =>
      rw [List.flatMap_cons, List.map_cons, ← ih, pixelBytes, terrace]
      have ridge : single 0 0 236 66 = 118 := by decide +kernel
      have plain : single 0 0 220 66 = 110 := by decide +kernel
      by_cases onRidge : index % tileDim % tileBaseDim < 6
      · rw [if_pos onRidge, if_pos (by omega), List.cons_append, ← ridge]
        rfl
      · rw [if_neg onRidge, if_neg (by omega), List.cons_append, ← plain]
        rfl

theorem terrace_raw_length : terraceRaw.length = tileBytes := by
  rw [terraceRaw, pixels_length, List.length_range, tileBytes]

theorem terrace_values :
    unpack single terraceRaw = (List.range (tileDim * tileDim)).map fun index => terrace 0 (index % tileDim : Nat) := by
  rw [terraceRaw, unpack_pixels]

theorem terrace_read (key : TileKey) : ∃ tile, readTile terraceDir key = .ok tile ∧
    tile.values = (List.range (tileDim * tileDim)).map fun index => terrace 0 (index % tileDim : Nat) := by
  obtain ⟨path, found⟩ : ∃ path, tilePath terraceDir key = .ok path := ⟨_, rfl⟩
  have read := read_tile_complete terraceDir key path terraceRaw found rfl terrace_raw_length
  refine ⟨_, read, ?_⟩
  dsimp only
  rw [← terrace_values, terraceDir]

theorem terrace_consistent : Consistent terrace terraceDir := by
  intro key tile read row col rowLow rowHigh colLow colHigh
  obtain ⟨held, isHeld, values⟩ := terrace_read key
  have same : held = tile := Except.ok.inj (isHeld.symm.trans read)
  have above : ∀ place, ¬ terrace 0 place < nodataThreshold := by
    intro place
    rw [terrace, nodataThreshold]
    split <;> norm_num
  have column : (row.toNat * tileDim + col.toNat) % tileDim = col.toNat := by
    rw [Nat.mul_add_mod_of_lt (by omega)]
  have shifted : terrace (row + -(tileBaseDim * key.1)) (col + tileBaseDim * key.2) = terrace 0 col := by
    rw [terrace, terrace, Int.add_mul_emod_self_left]
  rw [sample, dif_neg (by omega), shifted]
  subst same
  simp only [values, List.get_eq_getElem, List.getElem_map, List.getElem_range, column, Int.toNat_of_nonneg colLow, if_neg (above _)]

theorem terrace_rows_gentle (col : Int) : Gentle (8 : Rat) fun row => terrace row col := by
  intro row
  simp [terrace]

theorem terrace_cols_gentle (row : Int) : Gentle (8 : Rat) (terrace row) := by
  intro col
  rw [terrace, terrace]
  split <;> split <;> norm_num

theorem terrace_ground (lat lon : Rat) (valid : validateCoords lat lon = .ok ()) :
    groundElevation terraceDir lat lon = .ok (rasterElevation terrace lat lon) := by
  obtain ⟨tile, read, _⟩ := terrace_read (tileOf lat lon)
  exact ground_elevation_read terrace terraceDir terrace_consistent lat lon tile valid read

-- Both tiles of the meridian put it half way up the step, and a quarter of a pixel on either side rises by as much as the
-- raster does.
theorem ned_seamless_terrace :
    (∀ west east, readTile terraceDir (40, -101) = .ok west → readTile terraceDir (40, -100) = .ok east →
      elevationOn west (40, -101) (79 / 2) (-100) = .ok 114 ∧ elevationOn east (40, -100) (79 / 2) (-100) = .ok 114) ∧
      |(112 : Rat) - 116| ≤ 8 * tileBaseDim * (|79 / 2 - 79 / 2| + |(-100 + 1 / 14400) - (-100 - 1 / 14400)|) := by
  obtain ⟨_, tiles, slope⟩ := ned_seamless terrace terraceDir terrace_consistent 8 terrace_rows_gentle terrace_cols_gentle
  have meridian : rasterElevation terrace (79 / 2) (-100) = 114 := by decide +kernel
  have before : rasterElevation terrace (79 / 2) (-100 - 1 / 14400) = 116 := by decide +kernel
  have behind : rasterElevation terrace (79 / 2) (-100 + 1 / 14400) = 112 := by decide +kernel
  refine ⟨fun west east westRead eastRead => ?_, ?_⟩
  · rw [← meridian]
    refine ⟨tiles (40, -101) west (79 / 2) (-100) westRead ?_, tiles (40, -100) east (79 / 2) (-100) eastRead ?_⟩
    · constructor <;> norm_num
    · constructor <;> norm_num
  · refine slope (79 / 2) (-100 - 1 / 14400) 116 (79 / 2) (-100 + 1 / 14400) 112 ?_ ?_
    · rw [← before]
      exact terrace_ground _ _ (by decide +kernel)
    · rw [← behind]
      exact terrace_ground _ _ (by decide +kernel)

end Terrace

end SasCore.Terrain
