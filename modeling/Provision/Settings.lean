/-
  Provision.Settings
  ──────────────────
  **PINNED VERSIONS, ADDRESSES AND TOOL NAMES.**

  Every field of the settings has a default, so that a settings file holds
  only what it changes.  The names and addresses that a run uses are functions
  of the settings.

  Main results:

    `nightlyIndex_append_slash`   slashes at the end of the index change nothing
    `url_of_no_placeholder`       an address without a place for the version is kept
-/
import Provision.Text.Blank
import Provision.Text.Search

namespace Provision

open Provision.Text

/-! ## §1. The native library. -/

/-- A library that is built from a source tarball. -/
structure NativeLibrary where
  name : String := "libgit2"
  version : String := "1.3.0"
  /-- The address of the tarball, with a place for the version. -/
  urlTemplate : String :=
    "https://github.com/libgit2/libgit2/archive/refs/tags/v\x7bversion\x7d.tar.gz"
  deriving DecidableEq, Repr

namespace NativeLibrary

/-- The directory that the tarball holds. -/
def dirName (l : NativeLibrary) : String := l.name ++ "-" ++ l.version

/-- The name under which the tarball is stored. -/
def tarballName (l : NativeLibrary) : String := l.dirName ++ ".tar.gz"

/-- The address of the tarball: the version in every place kept for it. -/
def url (l : NativeLibrary) : String :=
  replaceAll l.urlTemplate "\x7bversion\x7d" l.version

/-- A template without a place for the version is the address itself. -/
theorem url_of_no_placeholder {l : NativeLibrary}
    (h : holds l.urlTemplate "\x7bversion\x7d" = false) : l.url = l.urlTemplate := by
  unfold url replaceAll
  rw [replaceFrom_of_not_occurs h, String.ofList_toList]

end NativeLibrary

/-! ## §2. The settings. -/

/-- The settings of a run. -/
structure Settings where
  /-- The interpreter whose `pip` receives the packages. -/
  python : String := "python3"
  /-- The major version of the JDK. -/
  jdkVersion : UInt32 := 17
  /-- The major version of Node.js. -/
  nodeMajor : UInt32 := 14
  /-- The set-up script for hosts with apt. -/
  nodesourceUrl : String := "https://deb.nodesource.com/setup_14.x"
  /-- The nightly index; the tag of the build is put after it. -/
  nightlyIndexUrl : String := "https://download.pytorch.org/whl/nightly"
  /-- Bring pip and setuptools up to date first. -/
  upgradePip : Bool := true
  /-- The npm tools that are installed globally. -/
  npmPackages : List String := ["newman", "newman-reporter-htmlextra", "markdown-link-check"]
  /-- The script that installs the npm tools on macOS, below the project root. -/
  macNpmScript : String := "ts_scripts/mac_npm_deps"
  nativeLibrary : NativeLibrary := {}
  deriving DecidableEq, Repr

namespace Settings

/-- Every field at its default. -/
def defaults : Settings := {}

instance : Inhabited Settings := ⟨defaults⟩

/-- The nightly index of a build: the address without slashes at its end, one
slash and the tag. -/
def nightlyIndexFor (s : Settings) (tag : String) : String :=
  String.ofList (dropEndWhile (· == '/') s.nightlyIndexUrl.toList) ++ "/" ++ tag

/-- The formula of the pinned Node.js release. -/
def nodeFormula (s : Settings) : String := "node@" ++ toString s.nodeMajor.toNat

/-- The formula of the pinned JDK. -/
def jdkFormula (s : Settings) : String := "openjdk@" ++ toString s.jdkVersion.toNat

/-- The apt package of the pinned JDK. -/
def jdkPackage (s : Settings) : String := "openjdk-" ++ toString s.jdkVersion.toNat ++ "-jdk"

/-- **A slash at the end of the address makes no difference.** -/
theorem nightlyIndex_append_slash (s : Settings) (tag : String) :
    nightlyIndexFor { s with nightlyIndexUrl := s.nightlyIndexUrl ++ "/" } tag
      = s.nightlyIndexFor tag := by
  have h : ("/" : String).toList = ['/'] := rfl
  simp [nightlyIndexFor, dropEndWhile, h]

end Settings

end Provision
