import KubeNpu.Sentinels
import KubeNpu.Discovery.Device
import KubeNpu.Go.Filepath
import KubeNpu.Go.Maps

/-!
# `pkg/discovery/sysfs.go`: what sysfs says about a device

The files are read through `World`, the answers of the system calls that the
discovery makes.  `readUevent` reads `KEY=VALUE` lines with a `bufio.Scanner`,
which gives up on a line of 64 KiB.
-/

namespace KubeNpu

open Go

/-- `fs.DirEntry`, as far as the discovery reads it. -/
structure DirFile where
  name : String
  isDir : Bool
  /-- `Type() & os.ModeCharDevice` is not 0. -/
  isCharDevice : Bool
  deriving DecidableEq

/-- An open file: what reading it delivers, and the error that ends the reading,
if it is not the end of the file. -/
structure OpenFile where
  content : String
  readErr : Option Err

/-- What the system answers during a discovery. -/
structure World where
  /-- `os.ReadDir`. -/
  readDir : String → Except Err (List DirFile)
  /-- The `st_rdev` that `stat` reports. -/
  stat : String → Except Err UInt64
  /-- `os.Open`. -/
  openFile : String → Except Err OpenFile
  /-- `os.ReadFile`. -/
  readFile : String → Except Err String
  /-- `filepath.EvalSymlinks`. -/
  evalSymlinks : String → Except Err String

/-! ## Device numbers -/

namespace Unix

/-- `unix.Major`: the major number of a 64-bit `dev_t`. -/
def major (dev : UInt64) : UInt32 :=
  ((dev &&& 0x00000000000fff00) >>> 8).toUInt32 ||| ((dev &&& 0xfffff00000000000) >>> 32).toUInt32

/-- `unix.Minor`: the minor number of a 64-bit `dev_t`. -/
def minor (dev : UInt64) : UInt32 :=
  (dev &&& 0x00000000000000ff).toUInt32 ||| ((dev &&& 0x00000ffffff00000) >>> 12).toUInt32

end Unix

/-! ## Scanning lines -/

namespace Scanner

/-- `bufio.MaxScanTokenSize`. -/
def maxScanTokenSize : ℕ := 64 * 1024

/-- The lines of a text: what stands after the last newline is a line only if it
is not empty. -/
def rawLines (text : String) : List String :=
  let parts := Strings.split text '\n'
  if parts.getLast? = some "" then parts.dropLast else parts

/-- `bufio.dropCR`. -/
def dropCR (line : String) : String := Strings.trimSuffix line "\r"

/-- The tokens of a `bufio.Scanner` that splits lines, and its final error: a line
that fills the buffer before its newline comes ends the scan. -/
def scan (file : OpenFile) : Except Err (List String) :=
  let lines := rawLines file.content
  if lines.any fun line => maxScanTokenSize ≤ line.utf8ByteSize then
    .error (.errorf "bufio.Scanner: token too long" [])
  else
    match file.readErr with
    | some err => .error err
    | none => .ok (lines.map dropCR)

end Scanner

/-! ## The three reads -/

/-- `GetDeviceAddress`: the address of a device and the path its link resolves to. -/
def getDeviceAddress (w : World) (path : String) : Except Err (String × String) :=
  let devicePath := Filepath.join path "device"
  match w.evalSymlinks devicePath with
  | .error err => .error (.wrapf "resolve %s: %w" [.str devicePath] err)
  | .ok retDevicePath => .ok (Filepath.base retDevicePath, retDevicePath)

/-- One line of a uevent file; a line without "=" is passed over. -/
def recordLine (uevent : Map String String) (line : String) : Map String String :=
  match Strings.cut line "=" with
  | none => uevent
  | some (key, value) => uevent.insert key value

/-- `ReadUevent`. -/
def readUevent (w : World) (drmPath : String) : Except Err (Map String String) :=
  let devicePath := Filepath.join drmPath "device"
  let ueventPath := Filepath.join devicePath "uevent"
  match w.openFile ueventPath with
  | .error err => .error (.wrapf "failed to open %s: %w" [.str ueventPath] err)
  | .ok file =>
      match Scanner.scan file with
      | .error err => .error (.wrapf "failed to scan %s: %w" [.str ueventPath] err)
      | .ok lines =>
          let uevent := lines.foldl recordLine ∅
          if (uevent.lookup "DRIVER").getD "" = "" then
            .error (.errorf "%s does not contain required field: DRIVER" [.str ueventPath])
          else .ok uevent

/-- `ReadNumaNode`. -/
def readNumaNode (w : World) (deviceSysfsPath : String) : String :=
  match w.readFile (Filepath.join deviceSysfsPath "numa_node") with
  | .error _ => "-1"
  | .ok data => Strings.trimSpace data

/-- A device that was read has a driver. -/
theorem readUevent_ok {w : World} {drmPath : String} {uevent : Map String String}
    (h : readUevent w drmPath = .ok uevent) : (uevent.lookup "DRIVER").getD "" ≠ "" := by
  simp only [readUevent] at h
  split at h
  · cases h
  · split at h
    · cases h
    · split at h
      · cases h
      · rename_i hdriver
        cases h
        exact hdriver

end KubeNpu
