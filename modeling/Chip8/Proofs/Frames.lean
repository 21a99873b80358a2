import Chip8.Picture.Frame
import Mathlib.Tactic.SplitIfs

/-!
# When there is a frame

A frame is refused for its scheme, its scale, its colours, its size, its format or its
place, in this order. The lemmas here say of each stage when it succeeds and with what, so
that together they say exactly when a screen becomes a frame and what the frame shows.
-/

namespace Chip8

/-- A computation that may fail, but not by an illegal word. -/
def Error.SparesOpcodes {Result : Type} (computation : Except Error Result) : Prop :=
  ∀ opcode address, computation ≠ .error (.illegalOpcode opcode address)

theorem Error.SparesOpcodes.bind {First Second : Type} {first : Except Error First}
    {second : First → Except Error Second} (start : SparesOpcodes first)
    (rest : ∀ value, SparesOpcodes (second value)) : SparesOpcodes (first >>= second) := by
  cases first with
  | error =>
      intro opcode address failed
      exact start opcode address (congrArg Except.error (Except.error.inj failed))
  | ok value => exact rest value

theorem Error.SparesOpcodes.pure {Result : Type} (result : Result) :
    SparesOpcodes (Pure.pure result) :=
  fun _ _ => nofun

namespace Picture

/-! ## Colours -/

theorem component?_eq_ok_iff {value : Int} {byte : Byte} :
    component? value = .ok byte ↔ (0 ≤ value ∧ value < 256) ∧ BitVec.ofInt 8 value = byte := by
  by_cases fits : 0 ≤ value ∧ value < 256 <;> simp [component?, fits]

namespace Rgb

/-- Whether the components that are asked for fit bytes. -/
def Fits (asked : Rgb Int) : Prop :=
  (0 ≤ asked.red ∧ asked.red < 256) ∧ (0 ≤ asked.green ∧ asked.green < 256) ∧
    (0 ≤ asked.blue ∧ asked.blue < 256)

instance (asked : Rgb Int) : Decidable asked.Fits :=
  inferInstanceAs (Decidable (_ ∧ _))

def bytes (asked : Rgb Int) : Color :=
  ⟨BitVec.ofInt 8 asked.red, BitVec.ofInt 8 asked.green, BitVec.ofInt 8 asked.blue⟩

theorem color?_eq_ok_iff {asked : Rgb Int} {color : Color} :
    asked.color? = .ok color ↔ asked.Fits ∧ asked.bytes = color := by
  simp only [color?, Error.bind_eq_ok_iff, component?_eq_ok_iff, pure, Except.pure,
    Except.ok.injEq, Fits, bytes]
  constructor
  · rintro ⟨red, ⟨redFits, rfl⟩, green, ⟨greenFits, rfl⟩, blue, ⟨blueFits, rfl⟩, rfl⟩
    exact ⟨⟨redFits, greenFits, blueFits⟩, rfl⟩
  · rintro ⟨⟨redFits, greenFits, blueFits⟩, rfl⟩
    exact ⟨_, ⟨redFits, rfl⟩, _, ⟨greenFits, rfl⟩, _, ⟨blueFits, rfl⟩, rfl⟩

end Rgb

namespace Scheme

/-- The colours of a scheme that is known can all be painted. -/
theorem fits_of_known {setting : Setting} {scheme : Scheme}
    (known : ofSetting? setting = .ok scheme) : scheme.on.Fits ∧ scheme.off.Fits := by
  have all : ∀ entry ∈ named, entry.2.on.Fits ∧ entry.2.off.Fits := by decide
  cases setting with
  | text name =>
      cases found : named.lookup name with
      | none => simp [ofSetting?, found] at known
      | some other =>
          obtain ⟨before, after, entries, -⟩ := List.lookup_eq_some_iff.mp found
          simp only [ofSetting?, found, Except.ok.injEq] at known
          exact known ▸ all (name, other) (by simp [entries])
  | _ => simp [ofSetting?] at known

end Scheme

/-! ## Pictures -/

namespace Image

/-- The scale can be counted with, and the host has room for the enlarged image. -/
def Buildable (host : Host) (width height : Nat) (scale : Int) : Prop :=
  scale < 0x8000000000000000 ∧
    host.holds (width * scale.toNat) (height * scale.toNat) = true

section Rendering

variable {host : Host} {width height : Nat} {bitmap : Bitmap width height} {scheme : Scheme}
  {image : Image}

theorem render?_eq_ok_iff {scale : Int} :
    render? bitmap scale scheme = .ok image ↔
      1 ≤ scale ∧ scheme.on.Fits ∧ scheme.off.Fits ∧
        paint bitmap scale.toNat scheme.on.bytes scheme.off.bytes = image := by
  by_cases small : scale < 1
  · simp only [render?, if_pos small, reduceCtorEq, false_iff]
    rintro ⟨positive, -⟩
    omega
  · simp only [render?, if_neg small, Error.bind_eq_ok_iff, Rgb.color?_eq_ok_iff, pure,
      Except.pure, Except.ok.injEq]
    constructor
    · rintro ⟨on, ⟨onFits, rfl⟩, off, ⟨offFits, rfl⟩, rfl⟩
      exact ⟨by omega, onFits, offFits, rfl⟩
    · rintro ⟨-, onFits, offFits, rfl⟩
      exact ⟨_, ⟨onFits, rfl⟩, _, ⟨offFits, rfl⟩, rfl⟩

theorem checkSize_eq_ok_iff {scale : Int} :
    checkSize host width height scale = .ok () ↔ Buildable host width height scale := by
  unfold checkSize Buildable
  split_ifs with outOfRange room
  · refine ⟨nofun, ?_⟩
    rintro ⟨inRange, -⟩
    exact absurd outOfRange (Int.not_le.mpr inRange)
  · exact iff_of_true rfl ⟨Int.not_le.mp outOfRange, room⟩
  · refine ⟨nofun, ?_⟩
    rintro ⟨-, held⟩
    exact absurd held room

theorem renderAt?_eq_ok_iff {scale : Setting} :
    renderAt? host bitmap scale scheme = .ok image ↔
      ∃ factor, scaleOfSetting? scale = .ok factor ∧ 1 ≤ factor ∧
        Buildable host width height factor ∧ scheme.on.Fits ∧ scheme.off.Fits ∧
        paint bitmap factor.toNat scheme.on.bytes scheme.off.bytes = image := by
  simp only [renderAt?, Error.bind_eq_ok_iff, render?_eq_ok_iff]
  constructor
  · rintro ⟨factor, scaled, _, -, _, sized, positive, onFits, offFits, painted⟩
    exact ⟨factor, scaled, positive, checkSize_eq_ok_iff.mp sized, onFits, offFits, painted⟩
  · rintro ⟨factor, scaled, positive, buildable, onFits, offFits, painted⟩
    exact ⟨factor, scaled, _, ⟨by omega, onFits, offFits, rfl⟩, (),
      checkSize_eq_ok_iff.mpr buildable, positive, onFits, offFits, painted⟩

end Rendering

end Image

/-! ## Frames -/

/-- A picture that a host has room for shows a screen as a scale and a scheme ask for. Only
a whole number is a scale. -/
def Image.Shows (image : Image) (host : Host) (screen : Screen) (scale scheme : Setting) :
    Prop :=
  ∃ factor colors,
    scaleOfSetting? scale = .ok factor ∧
    Scheme.ofSetting? scheme = .ok colors ∧
    1 ≤ factor ∧
    Buildable host Screen.width Screen.height factor ∧
    image = paint screen.bitmap factor.toNat colors.on.bytes colors.off.bytes

/-- The image library writes a path in a format, and there is a place for the file. -/
def Library.CanWrite (library : Library) (files : Files) (path : String) (format : Format) :
    Prop :=
  library.format? path = some format ∧ files.write? path = .ok ()

theorem Library.formatAt?_eq_ok_iff {library : Library} {path : String} {format : Format} :
    library.formatAt? path = .ok format ↔ library.format? path = some format := by
  cases picked : library.format? path <;> simp [formatAt?, picked]

section Saving

variable {host : Host} {library : Library} {screen : Screen} {scale scheme : Setting}

theorem renderScreen?_eq_ok_iff {image : Image} :
    renderScreen? host screen scale scheme = .ok image ↔
      image.Shows host screen scale scheme := by
  simp only [renderScreen?, Error.bind_eq_ok_iff, Image.renderAt?_eq_ok_iff]
  constructor
  · rintro ⟨colors, known, factor, scaled, positive, buildable, -, -, painted⟩
    exact ⟨factor, colors, scaled, known, positive, buildable, painted.symm⟩
  · rintro ⟨factor, colors, scaled, known, positive, buildable, painted⟩
    obtain ⟨onFits, offFits⟩ := Scheme.fits_of_known known
    exact ⟨colors, known, factor, scaled, positive, buildable, onFits, offFits, painted.symm⟩

theorem Frame.save?_eq_ok_iff {files : Files} {path : String} {frame : Frame} :
    save? host library files screen path scale scheme = .ok frame ↔
      library.CanWrite files path frame.format ∧ frame.image.Shows host screen scale scheme := by
  simp only [save?, ofScreen?, Error.bind_eq_ok_iff, Error.mapError_eq_ok_iff,
    renderScreen?_eq_ok_iff, Library.formatAt?_eq_ok_iff, pure, Except.pure, Except.ok.injEq]
  constructor
  · rintro ⟨_, ⟨image, shows, format, known, rfl⟩, _, writable, rfl⟩
    exact ⟨⟨known, writable⟩, shows⟩
  · rintro ⟨⟨known, writable⟩, shows⟩
    exact ⟨frame, ⟨frame.image, shows, frame.format, known, rfl⟩, (), writable, rfl⟩

end Saving

/-! ## Faults of a picture -/

open Error (SparesOpcodes)

theorem Rgb.sparesOpcodes_color? (asked : Rgb Int) : SparesOpcodes asked.color? := by
  have component : ∀ value, SparesOpcodes (component? value) := by
    intro value
    unfold component?
    split <;> exact fun _ _ => nofun
  exact .bind (component _) fun _ => .bind (component _) fun _ =>
    .bind (component _) fun _ => .pure _

theorem Scheme.sparesOpcodes_ofSetting? (setting : Setting) :
    SparesOpcodes (ofSetting? setting) := by
  unfold ofSetting?
  split
  · split <;> exact fun _ _ => nofun
  all_goals exact fun _ _ => nofun

namespace Image

variable (host : Host) {width height : Nat} (bitmap : Bitmap width height) (scheme : Scheme)

theorem sparesOpcodes_render? (scale : Int) : SparesOpcodes (render? bitmap scale scheme) := by
  unfold render?
  split
  · exact fun _ _ => nofun
  · exact .bind (Rgb.sparesOpcodes_color? _) fun _ =>
      .bind (Rgb.sparesOpcodes_color? _) fun _ => .pure _

theorem sparesOpcodes_renderAt? (scale : Setting) :
    SparesOpcodes (renderAt? host bitmap scale scheme) := by
  have factor : SparesOpcodes (scaleOfSetting? scale) := by
    unfold scaleOfSetting?
    split <;> exact fun _ _ => nofun
  have size : ∀ scale, SparesOpcodes (checkSize host width height scale) := by
    intro scale
    unfold checkSize
    split_ifs <;> exact fun _ _ => nofun
  exact .bind factor fun scale => .bind (sparesOpcodes_render? bitmap scheme _) fun _ =>
    .bind (size scale) fun _ => sparesOpcodes_render? bitmap scheme scale

end Image

theorem Frame.sparesOpcodes_save? (host : Host) (library : Library) (files : Files)
    (screen : Screen) (path : String) (scale scheme : Setting) :
    SparesOpcodes (save? host library files screen path scale scheme) := by
  have format : SparesOpcodes (library.formatAt? path) := by
    unfold Library.formatAt?
    split <;> exact fun _ _ => nofun
  have place : SparesOpcodes ((files.write? path).mapError Error.fileNotWritten) := by
    cases files.write? path <;> exact fun _ _ => nofun
  exact .bind
    (.bind
      (.bind (Scheme.sparesOpcodes_ofSetting? scheme) fun _ =>
        Image.sparesOpcodes_renderAt? _ _ _ scale)
      fun _ => .bind format fun _ => .pure _)
    fun _ => .bind place fun _ => .pure _

end Picture

end Chip8
