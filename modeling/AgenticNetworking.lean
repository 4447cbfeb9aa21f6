import AgenticNetworking.Envoy.Rbac
import AgenticNetworking.Go.Decimal
import AgenticNetworking.Api.Types
import AgenticNetworking.Translator.Constants
import AgenticNetworking.Translator.AuthPolicy
import AgenticNetworking.Translator.PolicyMap
import AgenticNetworking.Translator.Enforcement
import AgenticNetworking.Translator.Backend
import AgenticNetworking.Translator.Issuer
import AgenticNetworking.Xds.Server
import AgenticNetworking.Xds.ControlPlaneAddress
import AgenticNetworking.Infra.Service
import AgenticNetworking.Infra.ApiServer
import AgenticNetworking.Infra.Proxy
import AgenticNetworking.Controller.Keys
import AgenticNetworking.Controller.WorkQueue
import AgenticNetworking.Controller.GatewayClass
import AgenticNetworking.Cli.Bootstrap
import AgenticNetworking.Cli.Deploy
