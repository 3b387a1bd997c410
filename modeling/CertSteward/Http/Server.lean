import CertSteward.Http

/-!
# A server that answers by script

Each request takes the next answer; past the last one every request is
refused. The server keeps the requests that it was sent.
-/

namespace CertSteward.Http

set_option autoImplicit false

structure Server where
  answers : List Answer
  /-- The requests so far, the first one first. -/
  requests : List Request

namespace Server

def exhausted : Answer :=
  .complete 418 (Text.Utf8.encode "script exhausted")

def exchange (request : Request) (server : Server) : Answer × Server :=
  match server.answers with
  | [] => (exhausted, ⟨[], server.requests ++ [request]⟩)
  | answer :: rest => (answer, ⟨rest, server.requests ++ [request]⟩)

def transport : Transport Server :=
  ⟨exchange⟩

/-- Rounds enough for every listing: each page takes an answer, and past the last one a page
is refused. -/
def rounds (server : Server) : Nat :=
  server.answers.length + 1

end Server

end CertSteward.Http
