import FileWindow.Action

/-!
# Windows

A window is the name of an open resource together with its extent.  Everything that inputs and
outputs do alike with their device is here, so the arithmetic of extents meets devices in one
place.  No operation of this file changes the window: those that move the extent answer the
window that is to take its place.

Main definitions:

- Definition Window: a name and an extent.
- Definition Window.seek: moves the cursor of a device within the extent.
- Definition Window.tell: the position within the extent.
- Definition Window.narrow, Window.widen: the windows after setting and unsetting the extent.
- Definition Window.read, Window.write, Window.flush, Window.release: transfers and the end.
-/

namespace FileWindow

/-- The name of an open resource and the extent that it shows. -/
structure Window where
  name : String
  extent : Extent
  deriving DecidableEq, Repr

namespace Window

variable {ρ σ α : Type}

/-! ## Opening -/

/-- The window over the whole of a freshly bound device. -/
def attach (name : String) (length : Nat) : Action FileError ρ σ Window := do
  Action.report (.opened name length)
  return ⟨name, .whole length⟩

/-! ## Positions -/

/-- The position within the extent of a raw position. -/
def logical (window : Window) (raw : Nat) : Action FileError ρ σ Nat :=
  Action.accept window.name (window.extent.logical raw)

/-- Moves to a position within the extent and answers it.  The target is checked before the
device is moved, so a refused seek leaves the cursor where it was; a limit bounds the position
within the extent. -/
def seek (device : Device σ) (window : Window) (distance : Int) (whence : Whence)
    (limit : Option Nat) : Action FileError ρ σ Nat := do
  let cursor ←
    if whence = .current ∧ plausibleDistance distance then
      Action.call window.name .tell device.position
    else pure 0
  let raw ← Action.accept window.name (window.extent.rawTarget distance whence cursor)
  let position ← window.logical raw
  if limit.any fun bound => position > bound then
    Action.refuse window.name .seekBeyondExtent
  let landed ← Action.call window.name .seek (device.seek (.start raw))
  Action.report (.sought window.name distance whence landed)
  window.logical landed

/-- The position within the extent. -/
def tell (device : Device σ) (window : Window) : Action FileError ρ σ Nat := do
  let raw ← Action.call window.name .tell device.position
  window.logical raw

/-! ## Sizes and extents -/

/-- The size of the raw data, none if it cannot be known. -/
def rawSize (device : Device σ) (window : Window) : Action FileError ρ σ (Option Nat) :=
  Action.call window.name .querySize device.size

/-- The size of the raw data, which has to be known. -/
def requiredSize (device : Device σ) (window : Window) : Action FileError ρ σ Nat := do
  match ← window.rawSize device with
  | some size => pure size
  | none => Action.fail (.unmeasured window.name)

/-- The length that a new extent gets. -/
def lengthAt (device : Device σ) (window : Window) (offset : Nat) :
    ExtentLength → Action FileError ρ σ Nat
  | .bytes length => pure length
  | .rest => do
    let size ← window.requiredSize device
    Action.accept window.name (Extent.rest offset size)

/-- The window with its extent set anew; the cursor stays where it is. -/
def narrow (device : Device σ) (window : Window) (offset : Nat) (length : ExtentLength) :
    Action FileError ρ σ Window := do
  let extent : Extent := ⟨offset, ← window.lengthAt device offset length⟩
  Action.report (.extentSet window.name extent)
  return { window with extent }

/-- The window over the whole of the raw data; the cursor is left at its end. -/
def widen (device : Device σ) (window : Window) : Action FileError ρ σ Window := do
  let size ← Action.call window.name .seek (device.seek (.finish 0))
  Action.report (.extentUnset window.name size)
  return { window with extent := .whole size }

/-! ## Transfers -/

/-- Reads up to so many bytes in one attempt, made again while it is interrupted. -/
def read (device : Device σ) (window : Window) (length : Nat) : Action FileError ρ σ Bytes :=
  Action.call window.name .read (device.readPatiently length)

/-- Writes all of the bytes. -/
def write (device : Device σ) (window : Window) (bytes : Bytes) : Action FileError ρ σ Unit :=
  Action.call window.name .write (device.write bytes)

/-- Passes on what the device has buffered. -/
def flush (device : Device σ) (window : Window) : Action FileError ρ σ Unit :=
  Action.call window.name .flush device.flush

/-- Releases the device. -/
def release (device : Device σ) (window : Window) : Action FileError ρ σ Unit := do
  Action.report (.closing window.name)
  Action.call window.name .close device.close

end Window

end FileWindow
