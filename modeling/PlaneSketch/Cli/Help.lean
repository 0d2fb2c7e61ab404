namespace PlaneSketch.Cli

def programName : String := "sketch-solver"

-- How the program is called, as it is shown in front of every complaint about the arguments.
def usage : String :=
  "usage: sketch-solver [-h] [--log-level LOG_LEVEL] [--max-passes MAX_PASSES]\n" ++
  "                     [--show-facts] [--output-path OUTPUT_PATH]\n" ++
  "                     path\n"

def help : String :=
  usage ++ "\n" ++
  "Solve 2D sketch constraints\n" ++ "\n" ++
  "positional arguments:\n" ++
  "  path                  Path to the JSON sketch document\n" ++ "\n" ++
  "options:\n" ++
  "  -h, --help            show this help message and exit\n" ++
  "  --log-level LOG_LEVEL\n" ++
  "                        Logging level (default: INFO)\n" ++
  "  --max-passes MAX_PASSES\n" ++
  "                        Propagation pass cap (default: 50)\n" ++
  "  --show-facts          Print every fact derived during the solve\n" ++
  "  --output-path OUTPUT_PATH\n" ++
  "                        Write the solved sketch document to the given path\n"

end PlaneSketch.Cli
