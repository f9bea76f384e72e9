import CloudDirector.Json.Record

/-!
# Supported versions

The versions of its interface that a server lists. A client asks for the first of its own that
the server has.
-/
namespace CloudDirector
open Json

structure VersionInfo where
  version : String
  deprecated : Bool
  loginUrl : Option String
  deriving DecidableEq, Repr, Inhabited

namespace VersionInfo

def members : List String := ["version", "deprecated", "loginUrl"]

def ofDocument : Decoder VersionInfo := fun d => do
  let r ← d.record? members
  some {
    version := ← r.required "version" .text
    deprecated := ← r.orElse "deprecated" false .flag
    loginUrl := ← r.optional "loginUrl" .text }

def toJson (v : VersionInfo) : Value :=
  .ofFields [("version", some (.string v.version)), ("deprecated", some (.bool v.deprecated)),
    ("loginUrl", v.loginUrl.map .string)]

end VersionInfo

/-- The versions of a server, the preliminary one apart. -/
structure SupportedVersions where
  listed : List VersionInfo
  alpha : Option VersionInfo
  deriving DecidableEq, Repr, Inhabited

namespace SupportedVersions

def members : List String := ["versionInfo", "versionInfoAlpha"]

def ofDocument : Decoder SupportedVersions := fun d => do
  let r ← d.record? members
  some {
    listed := ← r.orElse "versionInfo" [] (.list VersionInfo.ofDocument)
    alpha := ← r.optional "versionInfoAlpha" VersionInfo.ofDocument }

def toJson (s : SupportedVersions) : Value :=
  .ofFields [("versionInfo", some (.array (s.listed.map VersionInfo.toJson))),
    ("versionInfoAlpha", s.alpha.map VersionInfo.toJson)]

def supports (s : SupportedVersions) (version : String) : Bool :=
  (s.listed ++ s.alpha.toList).any (·.version == version)

def negotiate (s : SupportedVersions) (preferred : List String) : Option String :=
  preferred.find? s.supports

end SupportedVersions

end CloudDirector
