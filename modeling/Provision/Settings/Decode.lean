/-
  Provision.Settings.Decode
  ─────────────────────────
  **SETTINGS FROM A TEXT.**

  A settings file is a mapping; each of its keys overrides one field, and a
  field without a key keeps its default.  A text of blank characters only is
  a settings file that overrides nothing.
-/
import Provision.Settings
import Provision.Yaml.Decode

namespace Provision

open Provision.Yaml

/-- The keys of a native library. -/
def NativeLibrary.fields : Fields NativeLibrary
  | "name" => field text fun v l => { l with name := v }
  | "version" => field text fun v l => { l with version := v }
  | "url_template" => field text fun v l => { l with urlTemplate := v }
  | _ => none

/-- A native library. -/
def NativeLibrary.decoder : Decoder NativeLibrary := record "NativeLibrary" {} fields

/-- The keys of a settings file. -/
def Settings.fields : Fields Settings
  | "python" => field text fun v s => { s with python := v }
  | "jdk_version" => field word fun v s => { s with jdkVersion := v }
  | "node_major" => field word fun v s => { s with nodeMajor := v }
  | "nodesource_url" => field text fun v s => { s with nodesourceUrl := v }
  | "nightly_index_url" => field text fun v s => { s with nightlyIndexUrl := v }
  | "upgrade_pip" => field bool fun v s => { s with upgradePip := v }
  | "npm_packages" => field (list text) fun v s => { s with npmPackages := v }
  | "mac_npm_script" => field text fun v s => { s with macNpmScript := v }
  | "native_library" => field NativeLibrary.decoder fun v s => { s with nativeLibrary := v }
  | _ => none

/-- The settings of a document. -/
def Settings.decoder : Decoder Settings := record "Settings" defaults fields

/-- The settings of a text. -/
def Settings.ofText (s : String) : Except Fault Settings :=
  if Text.allBlank s then .ok defaults else decodeText Settings.decoder s

end Provision
