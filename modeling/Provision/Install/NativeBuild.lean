/-
  Provision.Install.NativeBuild
  ─────────────────────────────
  **BUILDING THE NATIVE LIBRARY.**

  The library is downloaded, unpacked, configured, built and installed in a
  new directory below the scratch directory, which is removed after the build
  whatever becomes of it.
-/
import Provision.Install.Context

namespace Provision

namespace NativeBuild

/-- The commands of a build in the directory `dir`, in their order. -/
def commands (privilege : Option String) (l : NativeLibrary) (dir : Path) : List Command :=
  let tarball := dir.join ⟨l.tarballName⟩
  let source := dir.join ⟨l.dirName⟩
  [⟨"wget", [l.url, "-O", tarball.text], none⟩,
    ⟨"tar", ["-xzf", tarball.text, "-C", dir.text], none⟩,
    ⟨"cmake", ["."], some source⟩,
    ⟨"make", [], some source⟩,
    .elevated privilege "make" ["install"] (some source)]

/-- Build and install a library from its source. -/
def build (ctx : Context) (l : NativeLibrary) : Procedure Unit :=
  Procedure.withDirectory ctx.scratch l.dirName fun dir => do
    Procedure.step ("Building " ++ l.name ++ " " ++ l.version ++ " from source")
    (commands ctx.target.privilege l dir).forM Procedure.run
    Procedure.tell (.success ("Installed " ++ l.name ++ " " ++ l.version))

/-- Install a library where the platform builds it. -/
def install (ctx : Context) (l : NativeLibrary) : Procedure Unit :=
  match ctx.target.os with
  | .linux => build ctx l
  | os => Procedure.log .debug .platform
      (l.name ++ " is not built from source on " ++ os.display)

end NativeBuild

end Provision
