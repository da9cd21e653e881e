import FileShare.Config.Account
import FileShare.Scratch.Provision

/-!
# Scoped shares

A share of the primary account that exists for the time of a scope.  A scope is
closed at its regular end, through the handle that it holds.  Then it is dropped,
as every scope is in the end.  One that was not closed is abandoned: the share is
looked up anew in the environment of that moment, and whatever goes wrong is only
logged.
-/

set_option autoImplicit false

namespace FileShare

structure ScopedShare where
  service : Service
  share : Share
  name : Text
  /-- Whether the scope had its regular end, so that there is nothing left to do. -/
  cleanedUp : Bool

namespace ScopedShare

def prepareLogging : Run Failure LogLevel := do
  let session <- get
  match Environment.ofSettings session.settings with
  | .error error => throw (.stopped error.message)
  | .ok environment => return environment.logLevel session.settings

def enter : Run Failure ScopedShare := do
  let _ <- prepareLogging
  let service <- primaryService
  let named <- Scratch.provideShare service Naming.sharePrefix
  logEntry .info ("Created test share " ++ named.name)
  return { service, share := named.handle, name := named.name, cleanedUp := false }

def noteUnfinished {ε : Type} (scope : ScopedShare) : Run ε Unit :=
  logEntry .warn ("Cleanup of share " ++ scope.name ++ " panicked")

def abandon {ε : Type} (scope : ScopedShare) : Run ε Unit := do
  let session <- get
  match Account.primary session.settings with
  | .error _ => scope.noteUnfinished
  | .ok account =>
      match <- attempt account.service with
      | .error error =>
          logEntry .warn ("Failed to clean up share " ++ scope.name ++
            ": failed to build service URL: " ++ error.message)
      | .ok service =>
          match <- attempt (Scratch.discardShare (service.share scope.name)) with
          | .ok _ => return ()
          | .error _ => scope.noteUnfinished

/-- What happens to every scope in the end. -/
def drop {ε : Type} (scope : ScopedShare) : Run ε Unit :=
  if scope.cleanedUp then pure () else scope.abandon

def finished (scope : ScopedShare) : ScopedShare := { scope with cleanedUp := true }

/-- Ends the scope: deletes the share and drops what is left.  A scope whose end stops half-way
is dropped as it is. -/
def close (scope : ScopedShare) : Run Failure Unit := do
  match <- attempt (Scratch.discardShare scope.share) with
  | .ok _ => scope.finished.drop
  | .error failure => do
      scope.drop
      throw failure

end ScopedShare

end FileShare
