import Carousel.VertexCover

/-!
# The program

Reads the words of the command line, carries out the request, and prints the result.
-/

open Carousel CommandLine

def main (words : List String) : IO UInt32 := do
  match ({} : Request).ofWords? words with
  | none =>
    IO.eprintln "error: the command line is not understood"
    return 2
  | some request =>
    match run request with
    | .error fault =>
      IO.eprintln fault.message
      return 1
    | .ok printed =>
      IO.print printed.output
      return UInt32.ofNat printed.code
