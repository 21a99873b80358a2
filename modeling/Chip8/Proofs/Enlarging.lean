import Chip8.Proofs.Frames

/-!
# Enlarged pictures

An image shows a bitmap in squares of one size and two colours. If the colours differ the
bitmap is read back from the corners of the squares, so different bitmaps give different images.
Whether there is an image at all depends on scale, colours and the room that the host has for
it, never on the pixels.
-/

namespace Chip8.Picture

/-! ## Colours in whole numbers -/

namespace Rgb

/-- The components of a colour as whole numbers. -/
def numbers (color : Color) : Rgb Int := ⟨color.red.toNat, color.green.toNat, color.blue.toNat⟩

theorem toNat_ofInt {value : Int} (fits : 0 ≤ value ∧ value < 256) :
    ((BitVec.ofInt 8 value).toNat : Int) = value := by
  rw [BitVec.toNat_ofInt]
  omega

theorem numbers_bytes {asked : Rgb Int} (fits : asked.Fits) : asked.bytes.numbers = asked := by
  obtain ⟨red, green, blue⟩ := fits
  simp only [numbers, bytes, toNat_ofInt red, toNat_ofInt green, toNat_ofInt blue]

end Rgb

namespace Image

/-- The colour in a row and a column, if the image goes that far. -/
def at? (image : Image) (row column : Nat) : Option (Rgb Int) :=
  image.rows[row]?.bind fun colors => colors[column]?.map Rgb.numbers

theorem at?_eq_some (image : Image) (row : Fin image.height) (column : Fin image.width) :
    image.at? row column = some (image.pixel row column).numbers := by
  simp [at?, pixel]

/-- The bitmap that is on where a square has its corner in a colour. -/
def sample (image : Image) (width height scale : Nat) (on : Rgb Int) : Bitmap width height :=
  .tabulate width height fun x y => image.at? (y * scale) (x * scale) = some on

section Painting

variable {width height : Nat}

/-- The image shows each pixel of the bitmap as a square in the colour for it. -/
structure Enlarges (image : Image) (bitmap : Bitmap width height) (scale : Nat)
    (scheme : Scheme) : Prop where
  width_eq : image.width = width * scale
  height_eq : image.height = height * scale
  square : ∀ (x : Fin width) (y : Fin height) (row column : Nat),
    row / scale = y → column / scale = x →
      image.at? row column = some (if bitmap.lit x y then scheme.on else scheme.off)

variable {bitmap : Bitmap width height} {scale : Nat} {scheme : Scheme}

theorem enlarges_paint (bitmap : Bitmap width height) (positive : 0 < scale)
    (onFits : scheme.on.Fits) (offFits : scheme.off.Fits) :
    (paint bitmap scale scheme.on.bytes scheme.off.bytes).Enlarges bitmap scale scheme where
  width_eq := rfl
  height_eq := rfl
  square x y row column down right := by
    have inRows : row < height * scale :=
      (Nat.div_lt_iff_lt_mul positive).mp (down ▸ y.isLt)
    have inColumns : column < width * scale :=
      (Nat.div_lt_iff_lt_mul positive).mp (right ▸ x.isLt)
    have found := at?_eq_some (paint bitmap scale scheme.on.bytes scheme.off.bytes)
      ⟨row, inRows⟩ ⟨column, inColumns⟩
    have painted := pixel_paint bitmap scale scheme.on.bytes scheme.off.bytes
      ⟨row, inRows⟩ ⟨column, inColumns⟩
    simp only [down, right, Fin.eta] at painted
    have numbered := congrArg Rgb.numbers painted
    rw [apply_ite Rgb.numbers, Rgb.numbers_bytes onFits, Rgb.numbers_bytes offFits] at numbered
    exact found.trans (congrArg some numbered)

theorem sample_of_enlarges {image : Image} (enlarged : image.Enlarges bitmap scale scheme)
    (positive : 0 < scale) (apart : scheme.on ≠ scheme.off) :
    image.sample width height scale scheme.on = bitmap := by
  ext x y
  have corner := enlarged.square x y (y * scale) (x * scale)
    (Nat.mul_div_cancel _ positive) (Nat.mul_div_cancel _ positive)
  rw [sample, Bitmap.lit_tabulate, corner]
  cases bitmap.lit x y <;> simp [apart.symm]

end Painting

section Rendering

variable {host : Host} {width height : Nat} {bitmap : Bitmap width height} {scale : Int}
  {scheme : Scheme}

theorem renderAt?_number_eq_ok_iff {image : Image} :
    renderAt? host bitmap (.number scale) scheme = .ok image ↔
      1 ≤ scale ∧ Buildable host width height scale ∧ scheme.on.Fits ∧ scheme.off.Fits ∧
        paint bitmap scale.toNat scheme.on.bytes scheme.off.bytes = image := by
  simp only [renderAt?_eq_ok_iff, scaleOfSetting?, Except.ok.injEq, exists_eq_left']

theorem renderAt?_of_buildable (bitmap : Bitmap width height) (positive : 1 ≤ scale)
    (buildable : Buildable host width height scale) (onFits : scheme.on.Fits)
    (offFits : scheme.off.Fits) :
    renderAt? host bitmap (.number scale) scheme =
      .ok (paint bitmap scale.toNat scheme.on.bytes scheme.off.bytes) :=
  renderAt?_number_eq_ok_iff.mpr ⟨positive, buildable, onFits, offFits, rfl⟩

theorem renderAt?_of_small (small : scale < 1) :
    renderAt? host bitmap (.number scale) scheme = .error (.scaleNotPositive scale) := by
  have refused : render? bitmap (min scale 1) scheme = .error (.scaleNotPositive scale) := by
    rw [render?, Int.min_eq_left (by omega), if_pos small]
  rw [renderAt?, scaleOfSetting?]
  simp only [bind, Except.bind, refused]

/-- What stands in the way of an image that there is room for are its colours, not what is
painted. -/
theorem renderAt?_fails_iff (positive : 1 ≤ scale)
    (buildable : Buildable host width height scale) :
    (∃ error, renderAt? host bitmap (.number scale) scheme = .error error) ↔
      ¬(scheme.on.Fits ∧ scheme.off.Fits) := by
  constructor
  · rintro ⟨error, failed⟩ ⟨onFits, offFits⟩
    exact nomatch failed.symm.trans
      (renderAt?_of_buildable bitmap positive buildable onFits offFits)
  · intro refused
    cases result : renderAt? host bitmap (.number scale) scheme with
    | error error => exact ⟨error, rfl⟩
    | ok image =>
        obtain ⟨-, -, onFits, offFits, -⟩ := renderAt?_number_eq_ok_iff.mp result
        exact absurd ⟨onFits, offFits⟩ refused

theorem renderAt?_of_large (large : 0x8000000000000000 ≤ scale) :
    ∃ error, renderAt? host bitmap (.number scale) scheme = .error error := by
  cases result : renderAt? host bitmap (.number scale) scheme with
  | error error => exact ⟨error, rfl⟩
  | ok image =>
      obtain ⟨-, ⟨inRange, -⟩, -⟩ := renderAt?_number_eq_ok_iff.mp result
      exact absurd large (Int.not_le.mpr inRange)

end Rendering

/-- Where the scale is positive, the host has room for the image and the components of both
colours fit bytes, a bitmap of any size is rendered, and the image shows each of its pixels as
a square. If the colours differ, the corners of the squares give the bitmap back, and no other
bitmap of its size has the same image. A scale below one is refused whatever the colours, and
so is one past 63 bits; otherwise rendering an image that there is room for fails exactly for a
component that does not fit. -/
theorem rendering_of_bitmap (host : Host) {width height : Nat} (bitmap : Bitmap width height)
    (scale : Int) (scheme : Scheme) :
    (1 ≤ scale → Buildable host width height scale → scheme.on.Fits → scheme.off.Fits →
        ∃ image, renderAt? host bitmap (.number scale) scheme = .ok image ∧
          image.Enlarges bitmap scale.toNat scheme ∧
          (scheme.on ≠ scheme.off →
            image.sample width height scale.toNat scheme.on = bitmap ∧
              ∀ other : Bitmap width height,
                renderAt? host other (.number scale) scheme = .ok image → other = bitmap)) ∧
      (scale < 1 →
        renderAt? host bitmap (.number scale) scheme = .error (.scaleNotPositive scale)) ∧
      (1 ≤ scale → Buildable host width height scale →
        ((∃ error, renderAt? host bitmap (.number scale) scheme = .error error) ↔
          ¬(scheme.on.Fits ∧ scheme.off.Fits))) ∧
      (0x8000000000000000 ≤ scale →
        ∃ error, renderAt? host bitmap (.number scale) scheme = .error error) := by
  refine ⟨?_, renderAt?_of_small, renderAt?_fails_iff, renderAt?_of_large⟩
  intro atLeastOne buildable onFits offFits
  have positive : 0 < scale.toNat := by omega
  have enlarged := enlarges_paint bitmap positive onFits offFits
  refine ⟨_, renderAt?_of_buildable bitmap atLeastOne buildable onFits offFits, enlarged, ?_⟩
  intro apart
  have sampled := sample_of_enlarges enlarged positive apart
  refine ⟨sampled, ?_⟩
  intro other same
  have otherEnlarged := enlarges_paint other positive onFits offFits
  obtain ⟨-, -, -, -, painted⟩ := renderAt?_number_eq_ok_iff.mp same
  rw [painted] at otherEnlarged
  exact (sample_of_enlarges otherEnlarged positive apart).symm.trans sampled

/-- Two pixels side by side, the right one on. -/
def rightHalf : Bitmap 2 1 := .tabulate 2 1 fun x _ => x = 1

/-- A host with room for a hundred pixels. -/
def smallHost : Host := { holds := fun width height => width * height ≤ 100 }

/-- It is rendered in squares of three, and refused at scale zero, past 63 bits, and with a
component below zero that none of the squares would need. -/
theorem rightHalf_rendered :
    Buildable smallHost 2 1 3 ∧ Rgb.Fits ⟨255, 255, 0⟩ ∧ Rgb.Fits ⟨64, 0, 64⟩ ∧
      (∃ image,
        renderAt? smallHost rightHalf (.number 3) ⟨⟨255, 255, 0⟩, ⟨64, 0, 64⟩⟩ = .ok image ∧
        image.at? 2 2 = some ⟨64, 0, 64⟩ ∧ image.at? 2 3 = some ⟨255, 255, 0⟩ ∧
        image.sample 2 1 3 ⟨255, 255, 0⟩ = rightHalf) ∧
      renderAt? smallHost rightHalf (.number 0) ⟨⟨256, 0, 0⟩, ⟨0, 0, 0⟩⟩ =
        .error (.scaleNotPositive 0) ∧
      Buildable smallHost 2 1 1 ∧
      (∃ error, renderAt? smallHost rightHalf (.number 1) ⟨⟨0, 0, 0⟩, ⟨0, -1, 0⟩⟩ =
        .error error) ∧
      ∃ error, renderAt? smallHost rightHalf (.number 0x8000000000000000) .green =
        .error error := by
  have buildable : Buildable smallHost 2 1 3 := ⟨by decide, by decide⟩
  have onFits : Rgb.Fits ⟨255, 255, 0⟩ := by decide
  have offFits : Rgb.Fits ⟨64, 0, 64⟩ := by decide
  obtain ⟨image, rendered, enlarged, recovers⟩ :=
    (rendering_of_bitmap smallHost rightHalf 3 ⟨⟨255, 255, 0⟩, ⟨64, 0, 64⟩⟩).1 (by decide)
      buildable onFits offFits
  obtain ⟨sampled, -⟩ := recovers (by decide)
  obtain ⟨-, small, -⟩ := rendering_of_bitmap smallHost rightHalf 0 ⟨⟨256, 0, 0⟩, ⟨0, 0, 0⟩⟩
  have plain : Buildable smallHost 2 1 1 := ⟨by decide, by decide⟩
  obtain ⟨-, -, fails, -⟩ := rendering_of_bitmap smallHost rightHalf 1 ⟨⟨0, 0, 0⟩, ⟨0, -1, 0⟩⟩
  obtain ⟨-, -, -, large⟩ := rendering_of_bitmap smallHost rightHalf 0x8000000000000000 .green
  refine ⟨buildable, onFits, offFits, ⟨image, rendered, ?_, ?_, sampled⟩, small (by decide),
    plain, (fails (by decide) plain).mpr (by decide), large (by decide)⟩
  · exact enlarged.square 0 0 2 2 rfl rfl
  · exact enlarged.square 1 0 2 3 rfl rfl

/-- A host with room for anything. -/
def roomyHost : Host := { holds := fun _ _ => true }

/-- Although all components fit, there is nothing to enlarge and room for anything, a scale
past 63 bits is refused. -/
theorem large_scale_refused :
    (1 : Int) ≤ 0x8000000000000000 ∧ Scheme.green.on.Fits ∧ Scheme.green.off.Fits ∧
      roomyHost.holds (0 * 0x8000000000000000) (0 * 0x8000000000000000) = true ∧
      renderAt? roomyHost (.tabulate 0 0 fun _ _ => false) (.number 0x8000000000000000) .green =
        .error .scaleOutOfRange :=
  ⟨by decide, by decide, by decide, rfl, rfl⟩

end Image

end Chip8.Picture
