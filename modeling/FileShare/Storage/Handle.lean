import FileShare.Storage.Pipeline

/-!
# Handles

A handle is the URL of a resource with the pipeline that reaches it.  Deriving
a handle never sends anything: whether the resource exists is for the service
to say.  The root directory of a share has the URL of the share and no name.
-/

set_option autoImplicit false

namespace FileShare

structure Service where
  url : Url
  pipeline : Pipeline
deriving DecidableEq, Repr

structure Share where
  url : Url
  pipeline : Pipeline
deriving DecidableEq, Repr

structure Directory where
  url : Url
  pipeline : Pipeline
  isRoot : Bool
deriving DecidableEq, Repr

structure File where
  url : Url
  pipeline : Pipeline
deriving DecidableEq, Repr

namespace Service

def share (service : Service) (name : Text) : Share :=
  { url := service.url.child name, pipeline := service.pipeline }

end Service

namespace Share

def name (share : Share) : Text := share.url.lastName

def root (share : Share) : Directory :=
  { url := share.url, pipeline := share.pipeline, isRoot := true }

end Share

namespace Directory

/-- The name of the directory; empty for a root directory. -/
def name (directory : Directory) : Text :=
  if directory.isRoot then [] else directory.url.lastName

def directory (parent : Directory) (name : Text) : Directory :=
  { url := parent.url.child name, pipeline := parent.pipeline, isRoot := false }

def file (parent : Directory) (name : Text) : File :=
  { url := parent.url.child name, pipeline := parent.pipeline }

end Directory

namespace Share

def directory (share : Share) (name : Text) : Directory := share.root.directory name

end Share

namespace File

def name (file : File) : Text := file.url.lastName

end File

end FileShare
