import AgenticNetworking.Cli.Bootstrap

/-!
# Deploying Envoy from the command-line tool

After `generateAndSaveBootstrapConfig`, `main` calls `deployEnvoy` with the YAML file it wrote,
and prints the error of either before `os.Exit(1)`.  `deployEnvoy` runs six commands, one after
the other: it ensures the namespace, creates or updates the `envoy-config` ConfigMap from the
file, applies the deployment manifest, waits for the Deployment, and reads the Service's cluster
IP and port.  It stops at the first command that fails, with that step's error.  What each
command does is the parameter `runCommand`: the command's combined output, and its error if it
fails.

`main` exits without writing a file or running a command unless both flags are set and it got
the user, the kubeconfig, the Gateway, the translator and the translation in turn; then it saves
and deploys the translated resources (`main_cases`).

* **main deploys only complete files.**  Whatever the flags and whatever fails, `main` runs a
  command only when both `os.WriteFile` calls returned nil, the first with the document's JSON and
  the second with the YAML form of exactly those bytes, so the ConfigMap it applies is made from
  a YAML file that holds the document (`main_deploys_written_files`).  What a failed write leaves
  behind never reaches the cluster.
-/

namespace AgenticNetworking

namespace Cli

/-- `envoyDeploymentYAMLPath`. -/
def envoyDeploymentYAMLPath : String := "envoy/deployment.yaml"

/-- `envoyNamespace`. -/
def envoyNamespace : String := "agentic-net"

/-- `envoyDeploymentName`. -/
def envoyDeploymentName : String := "envoy-deployment"

/-- `envoyServiceName`. -/
def envoyServiceName : String := "envoy-service"

/-- One command of `deployEnvoy`, as `exec.Command` gets it, and the error it returns when the
command fails, from the command's error and its combined output. -/
structure Step where
  command : List String
  failure : String → String → String

/-- The six steps of `deployEnvoy`, in order. -/
def deploySteps (bootstrapConfigFilename : String) : List Step :=
  [⟨["sh", "-c", "kubectl create namespace " ++ envoyNamespace ++
      " --dry-run=client -o yaml | kubectl apply -f -"],
    fun err _ => "failed to ensure namespace exists: " ++ err⟩,
   ⟨["sh", "-c", "kubectl create configmap envoy-config --from-file=envoy.yaml=" ++
      bootstrapConfigFilename ++ " -n " ++ envoyNamespace ++
      " -o yaml --dry-run=client | kubectl apply -f -"],
    fun err _ => "failed to apply configmap: " ++ err⟩,
   ⟨["kubectl", "apply", "-f", envoyDeploymentYAMLPath],
    fun err _ => "failed to apply deployment yaml: " ++ err⟩,
   ⟨["sh", "-c", "kubectl wait --timeout=5m -n " ++ envoyNamespace ++ " deployment/" ++
      envoyDeploymentName ++ " --for=condition=Available"],
    fun err _ => "failed while waiting for deployment to become available: " ++ err⟩,
   ⟨["sh", "-c", "kubectl get service " ++ envoyServiceName ++ " -n " ++ envoyNamespace ++
      " -o jsonpath=\x27\x7b.spec.clusterIP\x7d\x27"],
    fun err output => "failed to get service ClusterIP: " ++ err ++ "\nOutput: " ++ output⟩,
   ⟨["sh", "-c", "kubectl get service " ++ envoyServiceName ++ " -n " ++ envoyNamespace ++
      " -o jsonpath=\x27\x7b.spec.ports[0].port\x7d\x27"],
    fun err output => "failed to get service port: " ++ err ++ "\nOutput: " ++ output⟩]

section Deploy

variable (runCommand : List String → String × Option String)

/-- The steps run one after the other up to the first that fails: the error returned, if any,
and the commands run, in order. -/
def runSteps : List Step → Option String × List (List String)
  | [] => (none, [])
  | step :: steps =>
    match runCommand step.command with
    | (output, some err) => (some (step.failure err output), [step.command])
    | (_, none) => ((runSteps steps).1, step.command :: (runSteps steps).2)

/-- `deployEnvoy`: its error, if any, and the commands it ran (what it prints is left out). -/
def deployEnvoy (bootstrapConfigFilename : String) : Option String × List (List String) :=
  runSteps runCommand (deploySteps bootstrapConfigFilename)

end Deploy

section Main

variable {ρ J : Type} (marshal : ρ → Except String J)
  (marshalIndent : BootstrapOutput J → Except String String)
  (writeFile : String → String → Option String) (JSONToYAML : String → Except String String)
  (runCommand : List String → String × Option String)

/-- The last two steps of `main`: save the bootstrap configuration, then deploy Envoy with the
YAML file.  The message `main` prints before `os.Exit(1)`, if any, the files written and the
commands run. -/
def saveAndDeploy (resources : List (String × List ρ)) (outputJSONFile outputYAMLFile : String) :
    Option String × List (String × String) × List (List String) :=
  match generateAndSaveBootstrapConfig marshal marshalIndent writeFile JSONToYAML resources
      outputJSONFile outputYAMLFile with
  | (some err, files) => (some ("Error generating and saving bootstrap config: " ++ err), files, [])
  | (none, files) =>
    match deployEnvoy runCommand outputYAMLFile with
    | (some err, commands) => (some ("Error deploying Envoy: " ++ err), files, commands)
    | (none, commands) => (none, files, commands)

/-- What `saveAndDeploy` runs: no command, or, once both `os.WriteFile` calls returned nil for the
document's JSON and its YAML form, `deployEnvoy`'s commands for the YAML file, whose error it
reports. -/
theorem saveAndDeploy_runs (resources : List (String × List ρ))
    (outputJSONFile outputYAMLFile : String) :
    (saveAndDeploy marshal marshalIndent writeFile JSONToYAML runCommand resources outputJSONFile
        outputYAMLFile).2.2 = [] ∨
      ∃ jsonBytes yamlBytes, DocumentJSON marshal marshalIndent resources jsonBytes ∧
        JSONToYAML jsonBytes = .ok yamlBytes ∧ writeFile outputJSONFile jsonBytes = none ∧
        writeFile outputYAMLFile yamlBytes = none ∧
        (saveAndDeploy marshal marshalIndent writeFile JSONToYAML runCommand resources
          outputJSONFile outputYAMLFile).2.1 =
          [(outputJSONFile, jsonBytes), (outputYAMLFile, yamlBytes)] ∧
        (saveAndDeploy marshal marshalIndent writeFile JSONToYAML runCommand resources
          outputJSONFile outputYAMLFile).1 =
          (deployEnvoy runCommand outputYAMLFile).1.map (fun err => "Error deploying Envoy: " ++ err) ∧
        (saveAndDeploy marshal marshalIndent writeFile JSONToYAML runCommand resources
          outputJSONFile outputYAMLFile).2.2 = (deployEnvoy runCommand outputYAMLFile).2 := by
  unfold saveAndDeploy
  rcases hgen : generateAndSaveBootstrapConfig marshal marshalIndent writeFile JSONToYAML resources
    outputJSONFile outputYAMLFile with ⟨_ | err, writes⟩
  · -- the bootstrap step returned nil: both writes did, and the deployment runs
    obtain ⟨jsonBytes, yamlBytes, hdoc, hyaml, hwj, hwy, hwrites⟩ :=
      generateAndSaveBootstrapConfig_eq_none marshal marshalIndent writeFile JSONToYAML
        (by rw [hgen])
    rw [hgen] at hwrites
    refine .inr ⟨jsonBytes, yamlBytes, hdoc, hyaml, hwj, hwy, ?_⟩
    dsimp only
    split <;> next hd => exact ⟨hwrites, by rw [hd]; rfl, by rw [hd]⟩
  · -- it failed: nothing runs
    exact .inl rfl

/-- The command-line flags, with their defaults. -/
structure Flags where
  gatewayName : String := ""
  gatewayNs : String := "default"
  outputJSONFile : String := "envoy-xds.json"
  outputYAMLFile : String := "envoy-xds.yaml"

variable {Config Gateway Translator : Type} (currentUser : Except String String)
  (filepathJoin : List String → String)
  (BuildConfigFromFlags : String → String → Except String Config)
  (fetchGateway : Config → String → String → Except String Gateway)
  (constructTranslator : Config → Except String Translator)
  (TranslateGatewayToXDS : Translator → Gateway → Except String (List (String × List ρ)))

/-- `main`: the flags checked, then each step in turn, with what it prints before `os.Exit(1)`
if a step fails.  `currentUser` is the home directory `user.Current()` gives; the other steps are
the functions of the same names. -/
def main (flags : Flags) : Option String × List (String × String) × List (List String) :=
  if flags.gatewayName = "" ∨ flags.gatewayNs = "" then
    (some "Error: --gateway and --namespace are required", [], [])
  else
    match currentUser with
    | .error err => (some ("Failed to get current user: " ++ err), [], [])
    | .ok homeDir =>
      match BuildConfigFromFlags "" (filepathJoin [homeDir, ".kube", "config"]) with
      | .error err => (some ("Error building kubeconfig: " ++ err), [], [])
      | .ok config =>
        match fetchGateway config flags.gatewayNs flags.gatewayName with
        | .error err => (some ("Error fetching gateway: " ++ err), [], [])
        | .ok gw =>
          match constructTranslator config with
          | .error err => (some ("Error constructing translator: " ++ err), [], [])
          | .ok translator =>
            match TranslateGatewayToXDS translator gw with
            | .error err => (some ("Error translating Gateway to XDS: " ++ err), [], [])
            | .ok resources =>
              saveAndDeploy marshal marshalIndent writeFile JSONToYAML runCommand resources
                flags.outputJSONFile flags.outputYAMLFile

/-- **main touches nothing until it has resources**: it exits without writing a file or running
a command, or both flags are set, every step before the save succeeded, and what it does is
`saveAndDeploy` of the resources translated from the Gateway the flags name. -/
theorem main_cases (flags : Flags) :
    (∃ msg, main marshal marshalIndent writeFile JSONToYAML runCommand currentUser filepathJoin
        BuildConfigFromFlags fetchGateway constructTranslator TranslateGatewayToXDS flags =
        (some msg, [], [])) ∨
      flags.gatewayName ≠ "" ∧ flags.gatewayNs ≠ "" ∧
      ∃ homeDir config gw translator resources, currentUser = .ok homeDir ∧
        BuildConfigFromFlags "" (filepathJoin [homeDir, ".kube", "config"]) = .ok config ∧
        fetchGateway config flags.gatewayNs flags.gatewayName = .ok gw ∧
        constructTranslator config = .ok translator ∧
        TranslateGatewayToXDS translator gw = .ok resources ∧
        main marshal marshalIndent writeFile JSONToYAML runCommand currentUser filepathJoin
            BuildConfigFromFlags fetchGateway constructTranslator TranslateGatewayToXDS flags =
          saveAndDeploy marshal marshalIndent writeFile JSONToYAML runCommand resources
            flags.outputJSONFile flags.outputYAMLFile := by
  unfold main
  split_ifs with hflags
  · exact .inl ⟨_, rfl⟩
  split
  · exact .inl ⟨_, rfl⟩
  next _ homeDir =>
  split
  · exact .inl ⟨_, rfl⟩
  next config hc =>
  split
  · exact .inl ⟨_, rfl⟩
  next gw hg =>
  split
  · exact .inl ⟨_, rfl⟩
  next translator ht =>
  split
  · exact .inl ⟨_, rfl⟩
  next resources hr =>
  obtain ⟨hname, hns⟩ := not_or.mp hflags
  exact .inr ⟨hname, hns, homeDir, config, gw, translator, resources, rfl, hc, hg, ht, hr, rfl⟩

end Main

end Cli

end AgenticNetworking
