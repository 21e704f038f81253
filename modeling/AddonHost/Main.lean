import AddonHost.Stress

/-!
The command line: a stress run of one threadsafe function.

    stress [producers] [items per producer] [bound of the queue]
-/

/-- Run the stress test that the arguments ask for, print its lines and exit with its code, or as an
aborted process does. -/
def main (args : List String) : IO UInt32 := do
  let r := AddonHost.Stress.report args
  for line in r.lines do
    IO.println line
  return (r.exit.code?.getD 134).toUInt32
